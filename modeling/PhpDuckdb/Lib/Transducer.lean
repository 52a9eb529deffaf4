import Mathlib.Data.List.Basic

/-!
# Readers and writers that are exact

A computation moves its state over input that it reads and output that it writes, or stops. It is
exact for a form, a set of things with their spelling and their text, when it succeeds exactly on
the spellings, reads nothing else and writes the text. The rules say what sequences, checks and
counted loops are exact for.
-/

namespace PhpDuckdb.Transducer

universe u v w

variable {σ β γ ε : Type} {α δ : Type}

/-! ## States -/

/-- How the states of a computation move over input and output. -/
structure Tape (σ β γ : Type) where
  /-- What every state of a run is. -/
  sound : σ → Prop
  /-- The state after reading an input, which is there to be read, and writing an output. -/
  moves : σ → List β → List γ → σ → Prop
  /-- A move ends in a state of the run. -/
  keeps : ∀ {start ends input output}, sound start → moves start input output ends → sound ends
  /-- Nothing read and nothing written is no move. -/
  still : ∀ {start ends}, sound start → (moves start [] [] ends ↔ ends = start)
  /-- A move over two inputs and outputs is two moves. -/
  joins : ∀ {start ends first second written later}, sound start →
    (moves start (first ++ second) (written ++ later) ends ↔
      ∃ middle, moves start first written middle ∧ moves middle second later ends)

variable (tape : Tape σ β γ) (fatal : ε → Prop)

/-! ## Safe and exact computations -/

/-- A computation never stops fatally, and ends in a state of the run. -/
def Safe (run : StateT σ (Except ε) α) : Prop :=
  ∀ state, tape.sound state →
    (∀ stop, run state = .error stop → ¬fatal stop) ∧
    ∀ value ends, run state = .ok (value, ends) → tape.sound ends

/-- A computation never stops fatally, and gives a value exactly when it moves over an input and an
output that mean the value. -/
def Exact (means : α → List β → List γ → Prop) (run : StateT σ (Except ε) α) : Prop :=
  ∀ state, tape.sound state →
    (∀ stop, run state = .error stop → ¬fatal stop) ∧
    ∀ value ends, run state = .ok (value, ends) ↔
      ∃ input output, means value input output ∧ tape.moves state input output ends

variable {tape} {fatal}

/-- A computation whose meaning is exact never stops fatally. -/
theorem Exact.safe {means : α → List β → List γ → Prop} {run : StateT σ (Except ε) α}
    (exact_ : Exact tape fatal means run) : Safe tape fatal run := by
  intro state sound
  refine ⟨(exact_ state sound).1, ?_⟩
  intro value ends done
  obtain ⟨input, output, -, moved⟩ := ((exact_ state sound).2 value ends).mp done
  exact tape.keeps sound moved

/-- Exactness depends on what the meaning holds of only. -/
theorem Exact.of_iff {means other : α → List β → List γ → Prop} {run : StateT σ (Except ε) α}
    (exact_ : Exact tape fatal means run)
    (same : ∀ value input output, other value input output ↔ means value input output) :
    Exact tape fatal other run := by
  intro state sound
  refine ⟨(exact_ state sound).1, ?_⟩
  intro value ends
  rw [(exact_ state sound).2 value ends]
  simp only [same]

/-- A value that is given reads and writes nothing. -/
theorem exact_pure (value : α) :
    Exact tape fatal (fun given input output => given = value ∧ input = [] ∧ output = [])
      (pure value) := by
  intro state sound
  refine ⟨nofun, ?_⟩
  intro given ends
  have result : (pure value : StateT σ (Except ε) α) state = .ok (value, state) := rfl
  rw [result]
  constructor
  · intro done
    obtain ⟨same, last⟩ := Prod.mk.inj (Except.ok.inj done)
    exact ⟨[], [], ⟨same.symm, rfl, rfl⟩, (tape.still sound).mpr last.symm⟩
  · intro ⟨input, output, ⟨same, unread, unwritten⟩, moved⟩
    subst unread unwritten
    rw [same, (tape.still sound).mp moved]

/-- A stop that is not fatal has no meaning. -/
theorem exact_throw {stop : ε} (harmless : ¬fatal stop) :
    Exact tape fatal (fun (_ : α) _ _ => False) (throw stop) := by
  intro state _
  constructor
  · intro other stopped
    obtain rfl := Except.error.inj stopped
    exact harmless
  · intro value ends
    apply iff_of_false
    · exact nofun
    · exact fun ⟨_, _, wrong, _⟩ => wrong

/-- What a computation and the one after it mean together. -/
def andThen (first : α → List β → List γ → Prop) (second : α → δ → List β → List γ → Prop)
    (value : δ) (input : List β) (output : List γ) : Prop :=
  ∃ given read left written later, first given read written ∧ second given value left later ∧
    input = read ++ left ∧ output = written ++ later

/-- Two exact computations in sequence mean what they read and write together. -/
theorem exact_bind {first : α → List β → List γ → Prop} {second : α → δ → List β → List γ → Prop}
    {run : StateT σ (Except ε) α} {next : α → StateT σ (Except ε) δ}
    (one : Exact tape fatal first run) (two : ∀ given, Exact tape fatal (second given) (next given)) :
    Exact tape fatal (andThen first second) (run >>= next) := by
  intro state sound
  have result : (run >>= next) state =
      (run state).bind fun pair => next pair.1 pair.2 := rfl
  rw [result]
  obtain ⟨harmless, given⟩ := one state sound
  cases ran : run state with
  | error stop =>
    refine ⟨?_, ?_⟩
    · intro other stopped
      obtain rfl := Except.error.inj stopped
      exact harmless stop ran
    · intro value ends
      apply iff_of_false
      · exact nofun
      · intro ⟨input, output, ⟨middle, read, left, written, later, means, _, split, parted⟩, moved⟩
        rw [split, parted, tape.joins sound] at moved
        obtain ⟨between, moved, _⟩ := moved
        have done := (given middle between).mpr ⟨read, written, means, moved⟩
        rw [ran] at done
        cases done
  | ok pair =>
    obtain ⟨middle, between⟩ := pair
    obtain ⟨read, written, means, moved⟩ := (given middle between).mp ran
    have there := tape.keeps sound moved
    obtain ⟨quiet, gives⟩ := two middle between there
    refine ⟨quiet, ?_⟩
    intro value ends
    show next middle between = .ok (value, ends) ↔ _
    rw [gives value ends]
    constructor
    · intro ⟨left, later, after, rest⟩
      exact ⟨read ++ left, written ++ later,
        ⟨middle, read, left, written, later, means, after, rfl, rfl⟩,
        (tape.joins sound).mpr ⟨between, moved, rest⟩⟩
    · intro ⟨input, output, ⟨other, early, late, wrote, writes, meant, after, split, parted⟩, all⟩
      rw [split, parted, tape.joins sound] at all
      obtain ⟨place, before, rest⟩ := all
      have again := (given other place).mpr ⟨early, wrote, meant, before⟩
      rw [ran] at again
      obtain ⟨same, here⟩ := Prod.mk.inj (Except.ok.inj again)
      subst same here
      exact ⟨late, writes, after, rest⟩

/-- A safe computation after an exact one may rely on the meaning of what it is given. -/
theorem Exact.safe_bind {means : α → List β → List γ → Prop} {run : StateT σ (Except ε) α}
    {next : α → StateT σ (Except ε) δ} (one : Exact tape fatal means run)
    (two : ∀ given input output, means given input output → Safe tape fatal (next given)) :
    Safe tape fatal (run >>= next) := by
  intro state sound
  have result : (run >>= next) state =
      (run state).bind fun pair => next pair.1 pair.2 := rfl
  rw [result]
  obtain ⟨harmless, given⟩ := one state sound
  cases ran : run state with
  | error stop =>
    refine ⟨?_, nofun⟩
    intro other stopped
    obtain rfl := Except.error.inj stopped
    exact harmless stop ran
  | ok pair =>
    obtain ⟨input, output, meant, moved⟩ := (given pair.1 pair.2).mp ran
    exact two pair.1 input output meant pair.2 (tape.keeps sound moved)

/-- Two safe computations in sequence are safe. -/
theorem safe_bind {run : StateT σ (Except ε) α} {next : α → StateT σ (Except ε) δ}
    (one : Safe tape fatal run) (two : ∀ given, Safe tape fatal (next given)) :
    Safe tape fatal (run >>= next) := by
  intro state sound
  have result : (run >>= next) state =
      (run state).bind fun pair => next pair.1 pair.2 := rfl
  rw [result]
  obtain ⟨harmless, keeps⟩ := one state sound
  cases ran : run state with
  | error stop =>
    refine ⟨?_, nofun⟩
    intro other stopped
    obtain rfl := Except.error.inj stopped
    exact harmless stop ran
  | ok pair => exact two pair.1 pair.2 (keeps pair.1 pair.2 ran)

/-- A value that is given is safe. -/
theorem safe_pure (value : α) : Safe tape fatal (pure value : StateT σ (Except ε) α) :=
  (exact_pure value).safe

/-- A stop that is not fatal is safe. -/
theorem safe_throw {stop : ε} (harmless : ¬fatal stop) :
    Safe tape fatal (throw stop : StateT σ (Except ε) α) := (exact_throw harmless).safe

/-- A choice between safe computations is safe. -/
theorem safe_ite {condition : Prop} [Decidable condition] {yes no : StateT σ (Except ε) α}
    (one : condition → Safe tape fatal yes) (two : ¬condition → Safe tape fatal no) :
    Safe tape fatal (if condition then yes else no) := by
  by_cases holds : condition
  · rw [if_pos holds]
    exact one holds
  · rw [if_neg holds]
    exact two holds

/-- Go on when a condition holds, and stop otherwise. -/
def check (condition : Prop) [Decidable condition] (stop : ε) : StateT σ (Except ε) Unit :=
  if condition then pure () else throw stop

/-- A check passes exactly when its condition holds. -/
theorem exact_check {condition : Prop} [Decidable condition] {stop : ε} (harmless : ¬fatal stop) :
    Exact tape fatal (fun _ input output => condition ∧ input = [] ∧ output = [])
      (check condition stop) := by
  unfold check
  by_cases holds : condition
  · rw [if_pos holds]
    apply (exact_pure ()).of_iff
    intro value input output
    rw [and_iff_right holds, and_iff_right rfl]
  · rw [if_neg holds]
    apply (exact_throw harmless).of_iff
    intro value input output
    exact iff_of_false (fun wrong => holds wrong.1) id

/-! ## Forms -/

/-- Things with their spelling and their text. -/
structure Form (ι : Type w) (β γ : Type) where
  /-- What can be spelled. -/
  valid : ι → Prop
  /-- How it is spelled. -/
  spelled : ι → List β
  /-- How it is shown. -/
  text : ι → List γ

/-- A computation reads the spellings of a form and writes their texts. -/
def Transcribes {ι : Type w} (tape : Tape σ β γ) (fatal : ε → Prop) (form : Form ι β γ)
    (run : StateT σ (Except ε) Unit) : Prop :=
  Exact tape fatal (fun _ input output => ∃ thing, form.valid thing ∧
    input = form.spelled thing ∧ output = form.text thing) run

/-- The separator before every item but the first. -/
def leading (separate : StateT σ (Except ε) Unit) (index : Nat) : StateT σ (Except ε) Unit :=
  if 0 < index then separate else pure ()

/-- The loop `for (index = 0; index < count; index++)` over items with separators: from an index
on, with what is left of the count. -/
def separated (separate item : StateT σ (Except ε) Unit) : Nat → Nat → StateT σ (Except ε) Unit
  | _, 0 => pure ()
  | index, left + 1 => do
    leading separate index
    item
    separated separate item (index + 1) left

/-- Texts with a separator before every one but the first, from an index on. -/
def separatedText (separator : List γ) : Nat → List (List γ) → List γ
  | _, [] => []
  | index, text :: rest =>
    (if 0 < index then separator else []) ++ text ++ separatedText separator (index + 1) rest

/-- The separator is written before every item but the first. -/
theorem exact_leading {separator : List γ} {separate : StateT σ (Except ε) Unit}
    (writes : Exact tape fatal (fun _ input output => input = [] ∧ output = separator) separate)
    (index : Nat) :
    Exact tape fatal (fun _ input output =>
      input = [] ∧ output = if 0 < index then separator else []) (leading separate index) := by
  unfold leading
  by_cases later : 0 < index
  · simp only [if_pos later]
    exact writes
  · simp only [if_neg later]
    apply (exact_pure ()).of_iff
    intro value input output
    rw [and_iff_right rfl]

/-- A loop over items transcribes as many things as its count. -/
theorem exact_separated {ι : Type w} {form : Form ι β γ} {separator : List γ}
    {separate item : StateT σ (Except ε) Unit}
    (writes : Exact tape fatal (fun _ input output => input = [] ∧ output = separator) separate)
    (transcribes : Transcribes tape fatal form item) (count index : Nat) :
    Exact tape fatal (fun _ input output => ∃ things : List ι, things.length = count ∧
        (∀ thing ∈ things, form.valid thing) ∧ input = things.flatMap form.spelled ∧
        output = separatedText separator index (things.map form.text))
      (separated separate item index count) := by
  induction count generalizing index with
  | zero =>
    apply (exact_pure ()).of_iff
    intro value input output
    constructor
    · intro ⟨things, empty, _, read, wrote⟩
      obtain rfl := List.length_eq_zero_iff.mp empty
      exact ⟨rfl, read, wrote⟩
    · intro ⟨_, read, wrote⟩
      exact ⟨[], rfl, nofun, read, wrote⟩
  | succ count ih =>
    rw [separated]
    apply (exact_bind (exact_leading writes index) fun _ => exact_bind transcribes fun _ => ih (index + 1)).of_iff
    intro value input output
    constructor
    · intro ⟨things, length, valid, read, wrote⟩
      cases things with
      | nil => cases length
      | cons thing rest =>
        refine ⟨(), [], input, _, form.text thing ++
          separatedText separator (index + 1) (rest.map form.text), ⟨rfl, rfl⟩,
          ⟨(), form.spelled thing, rest.flatMap form.spelled, form.text thing, _,
            ⟨thing, valid thing List.mem_cons_self, rfl, rfl⟩,
            ⟨rest, Nat.succ.inj length, fun other found =>
              valid other (List.mem_cons_of_mem _ found), rfl, rfl⟩, ?_, rfl⟩, rfl, ?_⟩
        · rw [read, List.flatMap_cons]
        · rw [wrote, List.map_cons, separatedText, List.append_assoc]
    · intro ⟨_, unread, left, lead, later, ⟨nothing, leads⟩,
        ⟨_, read, rest, shown, last, ⟨thing, good, spells, shows⟩,
          ⟨things, length, valid, spelled, texts⟩, split, parted⟩, whole, all⟩
      refine ⟨thing :: things, congrArg Nat.succ length, ?_, ?_, ?_⟩
      · intro other found
        cases List.mem_cons.mp found with
        | inl same => exact same ▸ good
        | inr among => exact valid other among
      · rw [whole, nothing, split, spells, spelled, List.flatMap_cons, List.nil_append]
      · rw [all, leads, parted, shows, texts, List.map_cons, separatedText, List.append_assoc]

/-- After an item, every text has the separator in front of it. -/
theorem separatedText_later (separator : List γ) (index : Nat) (texts : List (List γ)) :
    separatedText separator (index + 1) texts = texts.flatMap (separator ++ ·) := by
  induction texts generalizing index with
  | nil => rfl
  | cons text rest ih => rw [separatedText, if_pos (Nat.succ_pos index), ih, List.flatMap_cons]

/-- From the first item on, the texts are joined by the separator. -/
theorem separatedText_zero (separator : List γ) (texts : List (List γ)) :
    separatedText separator 0 texts = separator.intercalate texts := by
  cases texts with
  | nil => rfl
  | cons text rest =>
    rw [separatedText, if_neg (Nat.lt_irrefl 0), List.nil_append, separatedText_later]
    induction rest generalizing text with
    | nil => exact (List.append_nil text).trans (List.append_nil text).symm
    | cons next rest ih =>
      rw [List.flatMap_cons, List.append_assoc, ih]
      rfl

end PhpDuckdb.Transducer
