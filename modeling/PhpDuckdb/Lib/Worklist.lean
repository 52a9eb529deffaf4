import Mathlib.Data.Finset.Card
import Mathlib.Data.Finset.SDiff
import Mathlib.Logic.Relation

/-!
# Searching a graph from a list of what is pending

Items lead to other items through keys, and every key is expanded once. `Finite.search_iff` says
that the search ends with the answer whether an item that is looked for can be reached.
-/

namespace PhpDuckdb.Worklist

universe u v

/-- A graph of items, expanded by keys of which finitely many have children. -/
structure Graph (Item : Type u) (Key : Type v) where
  /-- An item that is looked for. -/
  goal : Item → Bool
  /-- What an item is expanded by. -/
  key : Item → Option Key
  /-- What it leads to. -/
  children : Key → List Item
  /-- The keys with children. -/
  keys : Finset Key
  /-- The others have none. -/
  finite : ∀ key, key ∉ keys → children key = []

variable {Item : Type u} {Key : Type v} [DecidableEq Key]

namespace Graph

variable (graph : Graph Item Key)

/-- Expanding a key leaves fewer keys, or nothing is pending for it. -/
theorem expand_decreases {seen : Finset Key} {key : Key} (fresh : key ∉ seen) {pending : Nat} :
    Prod.Lex (· < ·) (· < ·)
      ((graph.keys \ insert key seen).card, (graph.children key).length + pending)
      ((graph.keys \ seen).card, pending + 1) := by
  by_cases known : key ∈ graph.keys
  · apply Prod.Lex.left
    apply Finset.card_lt_card
    rw [Finset.ssubset_iff]
    refine ⟨key, fun member => ?_, ?_⟩
    · exact (Finset.mem_sdiff.mp member).2 (Finset.mem_insert_self key seen)
    · intro other member
      cases Finset.mem_insert.mp member with
      | inl same => exact Finset.mem_sdiff.mpr (same ▸ ⟨known, fresh⟩)
      | inr inside =>
        obtain ⟨there, unseen⟩ := Finset.mem_sdiff.mp inside
        exact Finset.mem_sdiff.mpr ⟨there, fun old => unseen (Finset.mem_insert_of_mem old)⟩
  · have same : graph.keys \ insert key seen = graph.keys \ seen :=
      Finset.sdiff_insert_of_notMem known seen
    rw [same, graph.finite key known, List.length_nil, Nat.zero_add]
    exact Prod.Lex.right _ (Nat.lt_succ_self pending)

/-- What is pending after the children of a key are pushed, the last one on top. -/
def push (key : Key) (pending : List Item) : List Item := (graph.children key).reverse ++ pending

omit [DecidableEq Key] in
/-- The children and the others are pending. -/
theorem mem_push {key : Key} {item : Item} {pending : List Item} :
    item ∈ graph.push key pending ↔ item ∈ graph.children key ∨ item ∈ pending := by
  rw [push, List.mem_append, List.mem_reverse]

/-- The search: the last item that was pushed is looked at first. -/
def search (seen : Finset Key) (pending : List Item) : Bool :=
  match pending with
  | [] => false
  | item :: rest =>
    if graph.goal item then true
    else
      match graph.key item with
      | none => search seen rest
      | some key =>
        if key ∈ seen then search seen rest
        else search (insert key seen) (graph.push key rest)
termination_by ((graph.keys \ seen).card, pending.length)
decreasing_by
  · exact Prod.Lex.right _ (Nat.lt_succ_self _)
  · exact Prod.Lex.right _ (Nat.lt_succ_self _)
  · next fresh =>
    rw [push, List.length_append, List.length_reverse]
    exact graph.expand_decreases fresh

/-- An item leads to what is looked for through keys that were not expanded. -/
inductive Finds (seen : Finset Key) : Item → Prop
  | here {item : Item} (goal : graph.goal item = true) : Finds seen item
  | child {item next : Item} {key : Key} (isKey : graph.key item = some key) (fresh : key ∉ seen)
      (member : next ∈ graph.children key) (finds : Finds seen next) : Finds seen item

/-- What an item leads to it leads to without one more key, or one of that key's children does. -/
theorem Finds.expand {seen : Finset Key} {item : Item} (finds : graph.Finds seen item) (key : Key) :
    graph.Finds (insert key seen) item ∨
      ∃ next ∈ graph.children key, graph.Finds (insert key seen) next := by
  induction finds with
  | here goal => exact .inl (.here goal)
  | @child item next via isKey fresh member _ ih =>
    cases ih with
    | inr through => exact .inr through
    | inl found =>
      by_cases same : via = key
      · exact .inr ⟨next, same ▸ member, found⟩
      · have unseen : via ∉ insert key seen := by
          rw [Finset.mem_insert, not_or]
          exact ⟨same, fresh⟩
        exact .inl (.child isKey unseen member found)

/-- With fewer keys expanded an item leads to as much. -/
theorem Finds.weaken {seen : Finset Key} {key : Key} {item : Item}
    (finds : graph.Finds (insert key seen) item) : graph.Finds seen item := by
  induction finds with
  | here goal => exact .here goal
  | child isKey fresh member _ ih =>
    exact .child isKey (fun old => fresh (Finset.mem_insert_of_mem old)) member ih

/-- The search finds what a pending item leads to. -/
theorem search_iff (seen : Finset Key) (pending : List Item) :
    graph.search seen pending = true ↔ ∃ item ∈ pending, graph.Finds seen item := by
  fun_induction graph.search seen pending with
  | case1 seen => exact iff_of_false Bool.false_ne_true nofun
  | case2 seen item rest goal =>
    exact iff_of_true rfl ⟨item, List.mem_cons_self, .here goal⟩
  | case3 seen item rest other isKey ih =>
    rw [ih, List.exists_mem_cons_iff, or_iff_right]
    intro finds
    cases finds with
    | here goal => exact other goal
    | child isOther => rw [isKey] at isOther; cases isOther
  | case4 seen item rest other key isKey old ih =>
    rw [ih, List.exists_mem_cons_iff, or_iff_right]
    intro finds
    cases finds with
    | here goal => exact other goal
    | child isOther fresh =>
      rw [isKey] at isOther
      exact fresh (Option.some.inj isOther ▸ old)
  | case5 seen item rest other key isKey fresh ih =>
    rw [ih]
    constructor
    · rintro ⟨next, member, finds⟩
      cases graph.mem_push.mp member with
      | inl child =>
        exact ⟨item, List.mem_cons_self, .child isKey fresh child (finds.weaken graph)⟩
      | inr later => exact ⟨next, List.mem_cons_of_mem item later, finds.weaken graph⟩
    · rintro ⟨next, member, finds⟩
      have through : (∃ child ∈ graph.children key, graph.Finds (insert key seen) child) →
          ∃ found ∈ graph.push key rest, graph.Finds (insert key seen) found := by
        rintro ⟨child, inside, found⟩
        exact ⟨child, graph.mem_push.mpr (.inl inside), found⟩
      cases List.mem_cons.mp member with
      | inl same =>
        subst same
        cases finds with
        | here goal => exact absurd goal other
        | @child _ last via isVia unseen inside found =>
          rw [isKey] at isVia
          obtain rfl := Option.some.inj isVia
          cases found.expand graph key with
          | inl found => exact through ⟨last, inside, found⟩
          | inr further => exact through further
      | inr later =>
        cases finds.expand graph key with
        | inl found => exact ⟨next, graph.mem_push.mpr (.inr later), found⟩
        | inr further => exact through further

/-- One item leads to another at once. -/
def Leads (item next : Item) : Prop := ∃ key, graph.key item = some key ∧ next ∈ graph.children key

omit [DecidableEq Key] in
/-- At first an item finds what it can reach. -/
theorem finds_iff_reaches (item : Item) :
    graph.Finds ∅ item ↔
      ∃ target, Relation.ReflTransGen graph.Leads item target ∧ graph.goal target = true := by
  constructor
  · intro finds
    induction finds with
    | here goal => exact ⟨_, .refl, goal⟩
    | child isKey _ member _ ih =>
      obtain ⟨target, reaches, goal⟩ := ih
      exact ⟨target, .head ⟨_, isKey, member⟩ reaches, goal⟩
  · rintro ⟨target, reaches, goal⟩
    induction reaches using Relation.ReflTransGen.head_induction_on with
    | refl => exact .here goal
    | head leads _ ih =>
      obtain ⟨key, isKey, member⟩ := leads
      exact .child isKey (Finset.notMem_empty key) member ih

end Graph

end PhpDuckdb.Worklist
