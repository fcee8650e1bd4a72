import DirectLine.Firmware.Link
import DirectLine.Firmware.Main.Prologue
import DirectLine.Interaction.Transition

/-!
# Entry into the hardware tests

`hil_test.rs`: every case has to enter through reset, which restores the RAM
after a panic, a fault or a timeout.  The setup hook checks that two statics have
their initial values, overwrites them, and records the seconds of the RTC.
-/

namespace DirectLine.Firmware.HilTest

open DirectLine.Arithmetic.Placement DirectLine.Interaction Link
open DirectLine.Firmware.Startup (Address Memory)

inductive Static where
  | initializedData | zeroedData | bootRtcSeconds
  deriving DecidableEq, Repr

/-- What the hook leaves in place of the initial pattern. -/
def enteredPattern : Word := 0x5678ef01

/-- `before_host_handshake`, with the seconds that `AON_RTC` answers; a panic leaves the memory as
it is. -/
def beforeHostHandshake (place : Static → Address) (seconds : Word) (memory : Memory) :
    Except String Unit × Memory :=
  let memory := memory.store (place .bootRtcSeconds) seconds
  let initialized := memory.load (place .initializedData)
  if initialized ≠ Main.initialPattern then
    (.error (Main.unequal "" initialized Main.initialPattern), memory)
  else
    let zeroed := memory.load (place .zeroedData)
    if zeroed ≠ 0 then (.error (Main.unequal "" zeroed 0), memory)
    else
      let memory := memory.store (place .initializedData) enteredPattern
      (.ok (), memory.store (place .zeroedData) 1)

def bootRtcSeconds (place : Static → Address) (memory : Memory) : Word :=
  memory.load (place .bootRtcSeconds)

/-- The failure of an entry that does not come through reset. -/
def reentered : String := Main.unequal "" enteredPattern Main.initialPattern

structure Apart (place : Static → Address) : Prop where
  inSram : ∀ static, Memory.InSram (place static)
  injective : Function.Injective place

structure Restored (place : Static → Address) (memory : Memory) : Prop where
  initializedData : memory.load (place .initializedData) = Main.initialPattern
  zeroedData : memory.load (place .zeroedData) = 0

structure Entered (place : Static → Address) (seconds : Word) (memory : Memory) : Prop where
  initializedData : memory.load (place .initializedData) = enteredPattern
  bootRtcSeconds : bootRtcSeconds place memory = seconds

section Hook

variable {place : Static → Address} {memory memory' : Memory} {seconds : Word}
variable {result : Except String Unit}

theorem load_store {address : Address} (inside : Memory.InSram address) (value : Word)
    (other : Address) :
    (memory.store address value).load other =
      if other = address then value else memory.load other := by
  rw [Memory.store, if_pos inside, Memory.load, Memory.load]
  by_cases same : other = address
  · subst same
    rw [if_pos inside, if_pos rfl]
    exact Function.update_self ..
  · rw [if_neg same]
    split
    · exact Function.update_of_ne same ..
    · rfl

theorem Apart.load_store (apart : Apart place) (memory : Memory) (static other : Static)
    (value : Word) :
    (memory.store (place static) value).load (place other) =
      if other = static then value else memory.load (place other) := by
  rw [HilTest.load_store (apart.inSram static)]
  exact if_congr apart.injective.eq_iff rfl rfl

theorem Restored.accepted (restored : Restored place memory) (apart : Apart place)
    (seconds : Word) :
    ∃ memory', beforeHostHandshake place seconds memory = (.ok (), memory') ∧
      Entered place seconds memory' := by
  have initialized : (memory.store (place .bootRtcSeconds) seconds).load
      (place .initializedData) = Main.initialPattern := by
    rw [apart.load_store, if_neg (by decide)]
    exact restored.initializedData
  have zeroed : (memory.store (place .bootRtcSeconds) seconds).load (place .zeroedData) = 0 := by
    rw [apart.load_store, if_neg (by decide)]
    exact restored.zeroedData
  simp only [beforeHostHandshake, initialized, zeroed, ne_eq, not_true_eq_false, if_false]
  refine ⟨_, rfl, ?_, ?_⟩
  · simp only [apart.load_store, reduceCtorEq, if_true, if_false]
  · simp only [bootRtcSeconds, apart.load_store, reduceCtorEq, if_true, if_false]

/-- Statics that an earlier entry has overwritten are refused. -/
theorem Entered.refused {earlier : Word} (entered : Entered place earlier memory)
    (apart : Apart place) (seconds : Word) :
    ∃ memory', beforeHostHandshake place seconds memory = (.error reentered, memory') ∧
      Entered place seconds memory' := by
  have initialized : (memory.store (place .bootRtcSeconds) seconds).load
      (place .initializedData) = enteredPattern := by
    rw [apart.load_store, if_neg (by decide)]
    exact entered.initializedData
  have changed : enteredPattern ≠ Main.initialPattern := by decide
  simp only [beforeHostHandshake, initialized, ne_eq, changed, not_false_eq_true, if_true]
  refine ⟨_, rfl, initialized, ?_⟩
  exact (apart.load_store ..).trans (if_pos rfl)

/-- Whatever the memory held, an entry that is accepted found the statics restored. -/
theorem restored_of_accepted (apart : Apart place)
    (accepted : beforeHostHandshake place seconds memory = (.ok (), memory')) :
    Restored place memory := by
  simp only [beforeHostHandshake] at accepted
  split at accepted
  · cases accepted
  · next initialized =>
    split at accepted
    · cases accepted
    · next zeroed =>
      rw [apart.load_store, if_neg (by decide)] at initialized zeroed
      exact ⟨not_not.mp initialized, not_not.mp zeroed⟩

theorem flash_beforeHostHandshake (place : Static → Address) (seconds : Word) (memory : Memory) :
    (beforeHostHandshake place seconds memory).2.flash = memory.flash := by
  simp only [beforeHostHandshake]
  split_ifs <;> simp only [Startup.Memory.flash_store]

end Hook

def atomicU32 : Block := ⟨2, 4⟩

/-- The statics by their numbers among the inputs of their sections. -/
structure Inputs where
  initializedData : Nat
  bootRtcSeconds : Nat
  zeroedData : Nat

structure Inputs.Linked (inputs : Inputs) (objects : Objects) : Prop where
  initializedData : objects.data[inputs.initializedData]? = some atomicU32
  bootRtcSeconds : objects.data[inputs.bootRtcSeconds]? = some atomicU32
  zeroedData : objects.bss[inputs.zeroedData]? = some atomicU32
  distinct : inputs.initializedData ≠ inputs.bootRtcSeconds

def location (blocks : List Block) (output : Span) (index : Nat) : Nat :=
  (places blocks output.start)[index]?.elim 0 Span.start

namespace Inputs

def location (inputs : Inputs) (objects : Objects) (image : Image) : Static → Nat
  | .initializedData => HilTest.location objects.data image.data inputs.initializedData
  | .bootRtcSeconds => HilTest.location objects.data image.data inputs.bootRtcSeconds
  | .zeroedData => HilTest.location objects.bss image.bss inputs.zeroedData

def addressOf (inputs : Inputs) (objects : Objects) (image : Image) (static : Static) : Address :=
  address (inputs.location objects image static)

end Inputs

structure WordOf (output : Span) (location : Nat) : Prop where
  aligned : 4 ∣ location
  above : output.start ≤ location
  below : location + 4 ≤ output.stop

section Locations

variable {blocks : List Block} {output : Span} {index other : Nat} {objects : Objects}
variable {image : Image} {inputs : Inputs}

theorem places_atomicU32 (output : Span) (found : blocks[index]? = some atomicU32) :
    (places blocks output.start)[index]? =
      some ⟨location blocks output index, location blocks output index + 4⟩ ∧
    4 ∣ location blocks output index := by
  obtain ⟨reached, placed⟩ := getElem?_places found output.start
  have start : location blocks output index = alignUp atomicU32.alignment reached := by
    rw [location, placed]
    rfl
  rw [start]
  exact ⟨placed, dvd_alignUp ..⟩

theorem wordOf_location (found : blocks[index]? = some atomicU32)
    (held : after blocks output.start ≤ output.stop) :
    WordOf output (location blocks output index) := by
  obtain ⟨placed, aligned⟩ := places_atomicU32 output found
  obtain ⟨above, below⟩ := mem_places (List.mem_of_getElem? placed)
  exact ⟨aligned, above, below.trans held⟩

theorem location_add_le (output : Span) (found : blocks[index]? = some atomicU32)
    (foundOther : blocks[other]? = some atomicU32) (earlier : index < other) :
    location blocks output index + 4 ≤ location blocks output other := by
  obtain ⟨bound, placed⟩ := List.getElem?_eq_some_iff.mp (places_atomicU32 output found).1
  obtain ⟨boundOther, placedOther⟩ :=
    List.getElem?_eq_some_iff.mp (places_atomicU32 output foundOther).1
  have before := List.pairwise_iff_getElem.mp (pairwise_places blocks output.start) index other
    bound boundOther earlier
  rwa [placed, placedOther] at before

theorem location_ne (output : Span) (found : blocks[index]? = some atomicU32)
    (foundOther : blocks[other]? = some atomicU32) (distinct : index ≠ other) :
    location blocks output index ≠ location blocks output other := by
  rcases Nat.lt_or_gt_of_ne distinct with earlier | later
  · have apart := location_add_le output found foundOther earlier
    omega
  · have apart := location_add_le output foundOther found later
    omega

theorem Inputs.Linked.wordOf (linked : inputs.Linked objects)
    (succeeded : link objects = .ok image) :
    WordOf image.data (inputs.location objects image .initializedData) ∧
    WordOf image.data (inputs.location objects image .bootRtcSeconds) ∧
    WordOf image.bss (inputs.location objects image .zeroedData) := by
  obtain ⟨rfl, -⟩ := link_eq_ok succeeded
  have data : after objects.data (Link.place objects).data.start ≤
      (Link.place objects).data.stop := padded_stop (Link.output 2 objects.data _)
  have bss : after objects.bss (Link.place objects).bss.start ≤
      (Link.place objects).bss.stop := padded_stop (Link.output 2 objects.bss _)
  exact ⟨wordOf_location linked.initializedData data, wordOf_location linked.bootRtcSeconds data,
    wordOf_location linked.zeroedData bss⟩

theorem WordOf.bounds {start : Nat} (word : WordOf output start)
    (bounds : Bounds output.start output.stop) : Region.sram.origin ≤ start ∧
      start + 4 ≤ Region.sram.stop :=
  ⟨bounds.above.trans word.above, word.below.trans bounds.below⟩

theorem Inputs.Linked.apart (linked : inputs.Linked objects)
    (succeeded : link objects = .ok image) : Apart (inputs.addressOf objects image) := by
  have placed := placed_of_link succeeded
  obtain ⟨initialized, recorded, zeroed⟩ := linked.wordOf succeeded
  have between := placed.bss.1
  have distinct : inputs.location objects image .initializedData ≠
      inputs.location objects image .bootRtcSeconds :=
    location_ne image.data linked.initializedData linked.bootRtcSeconds linked.distinct
  have inside (static : Static) : Region.sram.origin ≤ inputs.location objects image static ∧
      inputs.location objects image static + 4 ≤ Region.sram.stop := by
    cases static with
    | initializedData => exact initialized.bounds placed.bounds_data
    | bootRtcSeconds => exact recorded.bounds placed.bounds_data
    | zeroedData => exact zeroed.bounds placed.bounds_bss
  have toNat (static : Static) : (inputs.addressOf objects image static).toNat =
      inputs.location objects image static :=
    toNat_address ((Nat.le_add_right ..).trans (inside static).2)
  constructor
  · intro static
    rw [Memory.InSram, toNat]
    exact ⟨(inside static).1, (Nat.lt_succ_of_le (Nat.le_add_right _ 3)).trans_le (inside static).2⟩
  · intro first second same
    have locations := congrArg BitVec.toNat same
    rw [toNat, toNat] at locations
    have data := initialized.below
    have dataOther := recorded.below
    have bss := zeroed.above
    cases first <;> cases second <;> first | rfl | omega

end Locations

/-- The word of the load image that `rust_start` copies to `INITIALIZED_DATA`. -/
def Inputs.loadAddress (inputs : Inputs) (objects : Objects) (image : Image) : Address :=
  address (image.sidata + (inputs.location objects image .initializedData - image.data.start))

section Reset

variable {objects : Objects} {image : Image} {inputs : Inputs} {frame : Nat}
variable {memory memory' : Memory}

theorem WordOf.word_eq {output : Span} {location : Nat} (word : WordOf output location)
    (aligned : 4 ∣ output.start) :
    ∃ index, location = output.start + 4 * index ∧ 4 * index < output.size := by
  obtain ⟨index, between⟩ := Nat.dvd_sub word.aligned aligned
  have above := word.above
  have below := word.below
  refine ⟨index, by omega, ?_⟩
  rw [Span.size]
  omega

/-- Whatever the RAM held, `rust_start` restores the statics. -/
theorem restored_of_started (linked : inputs.Linked objects)
    (succeeded : link objects = .ok image) (started : Started image frame memory memory')
    (programmed : memory.flash (inputs.loadAddress objects image) = Main.initialPattern) :
    Restored (inputs.addressOf objects image) memory' := by
  have placed := placed_of_link succeeded
  have apart := linked.apart succeeded
  obtain ⟨initialized, -, zeroed⟩ := linked.wordOf succeeded
  constructor
  · obtain ⟨index, here, within⟩ := initialized.word_eq placed.dataAligned.1
    have copied := started.data index within
    rw [← here] at copied
    rw [Memory.load, if_pos (apart.inSram _)]
    refine copied.trans ?_
    rw [← programmed, Inputs.loadAddress, here, Nat.add_sub_cancel_left]
  · obtain ⟨index, here, within⟩ := zeroed.word_eq placed.bssAligned.1
    have cleared := started.bss index within
    rw [← here] at cleared
    rw [Memory.load, if_pos (apart.inSram _)]
    exact cleared

end Reset

inductive Happening where
  /-- `rust_start` runs, whatever the RAM holds by then. -/
  | reset
  | entered (seconds : Word) (result : Except String Unit)
  /-- A case runs; the statics are private to the hook. -/
  | ran
  /-- A fault, a stray write or a loss of power. -/
  | lost

inductive Phase where
  | unknown | restored
  | entered (seconds : Word)

namespace Phase

/-- An entry that fails with unknown statics leaves them unknown. -/
def next : Phase → Happening → Phase
  | _, .reset => .restored
  | phase, .ran => phase
  | _, .lost => .unknown
  | .unknown, .entered seconds result =>
      match result with
      | .ok () => .entered seconds
      | .error _ => .unknown
  | _, .entered seconds _ => .entered seconds

def past (happenings : List Happening) : Phase := happenings.foldl next .unknown

def Knows (place : Static → Address) (memory : Memory) : Phase → Prop
  | .unknown => True
  | .restored => Restored place memory
  | .entered seconds => Entered place seconds memory

def Reports (result : Except String Unit) : Phase → Prop
  | .unknown => True
  | .restored => result = .ok ()
  | .entered _ => result = .error reentered

end Phase

structure Tests where
  objects : Objects
  image : Image
  inputs : Inputs
  frame : Nat
  linked : link objects = .ok image
  record : objects.diagnostic = [bootDiagnostic]
  statics : inputs.Linked objects
  framed : Framed image frame

namespace Tests

variable (tests : Tests)

def place : Static → Address := tests.inputs.addressOf tests.objects tests.image

/-- The flash holds the initial value of `INITIALIZED_DATA`. -/
def Programmed (memory : Memory) : Prop :=
  memory.flash (tests.inputs.loadAddress tests.objects tests.image) = Main.initialPattern

inductive Step (memory : Memory) : Happening → Memory → Prop where
  | reset {before memory' : Memory} (fuel : Nat) : before.flash = memory.flash →
      Startup.rustStart tests.image.symbols (address (tests.image.stack.stop - tests.frame))
        before fuel = some memory' → Step memory .reset memory'
  | entered (seconds : Word) :
      Step memory (.entered seconds (beforeHostHandshake tests.place seconds memory).1)
        (beforeHostHandshake tests.place seconds memory).2
  | ran {memory' : Memory} : memory'.flash = memory.flash →
      (∀ static, memory'.load (tests.place static) = memory.load (tests.place static)) →
        Step memory .ran memory'
  | lost {memory' : Memory} : memory'.flash = memory.flash → Step memory .lost memory'

variable {tests} {memory memory' : Memory} {happening : Happening} {phase : Phase}

theorem exists_reset (tests : Tests) (before : Memory) : ∃ fuel memory',
    Startup.rustStart tests.image.symbols (address (tests.image.stack.stop - tests.frame))
      before fuel = some memory' := by
  obtain ⟨memory', -, turns, ends⟩ :=
    exists_started tests.linked tests.record tests.framed before
  exact ⟨turns + 1, memory', ends _ (Nat.lt_succ_self turns)⟩

theorem apart : Apart tests.place := tests.statics.apart tests.linked

theorem Step.flash (step : tests.Step memory happening memory') : memory'.flash = memory.flash := by
  cases step with
  | reset _ kept ended =>
      have started := started_of_rustStart tests.linked tests.record tests.framed ended
      exact started.flash.trans kept
  | entered seconds => exact flash_beforeHostHandshake ..
  | ran kept _ => exact kept
  | lost kept => exact kept

/-- What an entry reports, and what is known after each step. -/
theorem Step.knows (step : tests.Step memory happening memory')
    (programmed : tests.Programmed memory) (knows : phase.Knows tests.place memory) :
    (∀ seconds result, happening = .entered seconds result → phase.Reports result) ∧
      (phase.next happening).Knows tests.place memory' := by
  cases step with
  | reset _ kept ended =>
      refine ⟨fun _ _ impossible => (by cases impossible), ?_⟩
      apply restored_of_started tests.statics tests.linked
        (started_of_rustStart tests.linked tests.record tests.framed ended)
      rw [kept]
      exact programmed
  | entered seconds =>
      cases phase with
      | restored =>
          obtain ⟨memory', accepted, entered⟩ := Restored.accepted knows apart seconds
          rw [accepted]
          exact ⟨fun _ _ same => by cases same; rfl, entered⟩
      | entered earlier =>
          obtain ⟨memory', refused, entered⟩ := Entered.refused knows apart seconds
          rw [refused]
          exact ⟨fun _ _ same => by cases same; rfl, entered⟩
      | unknown =>
          refine ⟨fun _ _ _ => trivial, ?_⟩
          cases known : beforeHostHandshake tests.place seconds memory with
          | mk result memory' =>
              cases result with
              | error => trivial
              | ok =>
                  -- An entry that succeeds has found the statics restored.
                  have restored := restored_of_accepted apart known
                  obtain ⟨memory'', accepted, entered⟩ := restored.accepted apart seconds
                  rw [known] at accepted
                  cases accepted
                  exact entered
  | ran kept same =>
      refine ⟨fun _ _ impossible => (by cases impossible), ?_⟩
      cases phase with
      | unknown => trivial
      | restored => exact ⟨(same _).trans knows.initializedData, (same _).trans knows.zeroedData⟩
      | entered seconds =>
          exact ⟨(same _).trans knows.initializedData, (same _).trans knows.bootRtcSeconds⟩
  | lost => exact ⟨fun _ _ impossible => (by cases impossible), trivial⟩

end Tests

/-- Whatever the RAM held, and however resets, entries, cases and losses follow one another: an
entry succeeds if `rust_start` has run since the last one and nothing was lost, and fails if the
statics are still those of an earlier entry.  The recorded seconds are those of the last entry, and
a reset always succeeds. -/
theorem entries_checked (tests : Tests) (memory memory' : Memory)
    (programmed : tests.Programmed memory) (happenings : List Happening)
    (run : Trace tests.Step memory happenings memory') :
    (∀ earlier seconds result later, happenings = earlier ++ .entered seconds result :: later →
      (Phase.past earlier).Reports result) ∧
    (∀ seconds, Phase.past happenings = .entered seconds →
      bootRtcSeconds tests.place memory' = seconds) ∧
    ∃ restored, tests.Step memory' .reset restored := by
  have invariant {happenings : List Happening} {memory' : Memory}
      (run : Trace tests.Step memory happenings memory') :
      tests.Programmed memory' ∧ (Phase.past happenings).Knows tests.place memory' := by
    apply run.invariant [] fun past memory =>
      tests.Programmed memory ∧ (Phase.past past).Knows tests.place memory
    · rintro past memory happening memory' - ⟨programmed, knows⟩ step
      constructor
      · rw [Tests.Programmed, step.flash]
        exact programmed
      · rw [Phase.past, List.foldl_concat]
        exact (step.knows programmed knows).2
    · exact ⟨programmed, trivial⟩
  refine ⟨?_, ?_, ?_⟩
  · rintro earlier seconds result later rfl
    obtain ⟨middle, start, rest⟩ := Trace.append_iff.mp run
    obtain ⟨programmed, knows⟩ := invariant start
    cases rest with
    | cons step _ => exact (step.knows programmed knows).1 seconds result rfl
  · intro seconds entered
    have knows := (invariant run).2
    rw [entered] at knows
    exact knows.bootRtcSeconds
  · obtain ⟨fuel, restored, ended⟩ := tests.exists_reset memory'
    exact ⟨restored, .reset fuel rfl ended⟩

section Reentry

def hookObjects : Objects where
  vectors := [⟨2, 252⟩]
  text := [⟨2, 400⟩]
  rodata := []
  ccfg := [⟨2, 124⟩]
  data := [atomicU32, atomicU32]
  bss := [atomicU32]
  diagnostic := [bootDiagnostic]
  orphan := []

def hook : Tests where
  objects := hookObjects
  image := Link.place hookObjects
  inputs := ⟨0, 1, 0⟩
  frame := 64
  linked := by decide
  record := rfl
  statics := ⟨rfl, rfl, rfl, by decide⟩
  framed := ⟨by decide, by decide⟩

def programmedMemory : Memory := ⟨fun _ => Main.initialPattern, fun _ => 7⟩

/-- An entry after a reset, and another one without. -/
theorem entries_checked_again :
    ∃ memory, Trace hook.Step programmedMemory
      [.lost, .reset, .entered 5 (.ok ()), .ran, .entered 9 (.error reentered)] memory ∧
        bootRtcSeconds hook.place memory = 9 := by
  have lost : hook.Step programmedMemory .lost { programmedMemory with sram := fun _ => 0 } :=
    .lost rfl
  obtain ⟨fuel, restored, ended⟩ := hook.exists_reset { programmedMemory with sram := fun _ => 0 }
  have run := Trace.cons lost <| .cons (.reset fuel rfl ended) <| .cons (.entered 5) <|
    .cons (.ran rfl fun _ => rfl) <| .cons (.entered 9) (.nil _)
  obtain ⟨reports, recorded, -⟩ := entries_checked hook programmedMemory _ rfl _ run
  have accepted := reports [.lost, .reset] 5 _ _ rfl
  have refused := reports [.lost, .reset, .entered 5 _, .ran] 9 _ [] rfl
  refine ⟨_, ?_, recorded 9 rfl⟩
  rw [← show _ = Except.ok () from accepted]
  rw [← show _ = Except.error reentered from refused]
  exact run

end Reentry

end DirectLine.Firmware.HilTest
