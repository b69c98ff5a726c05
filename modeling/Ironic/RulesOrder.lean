import Mathlib.Algebra.Order.Ring.Unbundled.Rat
import Mathlib.Data.List.Lex
import Ironic.InspectionRules

/-!
The order of the rules file. `_write_rules_file` sorts the cleaned rules with
`clean_rules.sort(key=lambda r: r.get('priority', 0), reverse=True)`, a stable sort by
descending priority under Python's `<`. The model inserts the rules one at a time
(`sortByPriority`). Priorities that `<` orders totally (numbers, strings, or lists of either)
are sorted as core's stable `List.mergeSort` sorts them; a sort that returns gives a
permutation in which no priority is below the next; priorities of two kinds raise `TypeError`.
-/

namespace Ironic

@[simp] theorem except_pure {α : Type} (a : α) : (pure a : Except Error α) = .ok a := rfl

@[simp] theorem except_map_ok {α β : Type} (f : α → β) (a : α) :
    (f <$> Except.ok a : Except Error β) = .ok (f a) := rfl

@[simp] theorem except_map_error {α β : Type} (f : α → β) (e : Error) :
    (f <$> Except.error e : Except Error β) = .error e := rfl

/-! ## A stable sort, one entry at a time -/

section StableSort

variable {α : Type} {le : α → α → Bool}

theorem eq_of_mem_enumFrom {xs : List α} {n : Nat} {a b : Nat × α}
    (left : a ∈ xs.enumFrom n) (right : b ∈ xs.enumFrom n) (same : a.1 = b.1) : a = b := by
  obtain ⟨i, x⟩ := a
  obtain ⟨j, y⟩ := b
  obtain rfl : i = j := same
  have found := List.snd_eq_of_mem_enumFrom left
  have found' := List.snd_eq_of_mem_enumFrom right
  simp only at found found'
  rw [found, found']

theorem fst_eq_of_enumLE {a b : Nat × α} (ab : List.enumLE le a b) (ba : List.enumLE le b a) :
    a.1 = b.1 := by
  simp only [List.enumLE] at ab ba
  cases h : le a.2 b.2 <;> cases h' : le b.2 a.2 <;> simp_all
  omega

theorem mergeSort_congr {le' : α → α → Bool} {l : List α}
    (agree : ∀ a ∈ l, ∀ b ∈ l, le a b = le' a b) : l.mergeSort le = l.mergeSort le' := by
  simpa using @List.map_mergeSort α α le le' id l agree

variable (trans : ∀ a b c, le a b → le b c → le a c) (total : ∀ a b, le a b || le b a)
include trans total

theorem mergeSort_concat (l : List α) (x : α) :
    (l ++ [x]).mergeSort le = (l.mergeSort le).merge [x] le := by
  have order := List.enumLE_trans trans
  have order' := List.enumLE_total total
  have tagged : (l ++ [x]).enum = l.enum ++ [(l.length, x)] := by
    simp [List.enum_append]
  have merged : (l.enum ++ [(l.length, x)]).mergeSort (List.enumLE le) =
      (l.enum.mergeSort (List.enumLE le)).merge [(l.length, x)] (List.enumLE le) := by
    refine @List.Perm.eq_of_sorted _ (fun a b => List.enumLE le a b = true) _ _ ?_ ?_ ?_ ?_
    · intro a b ha hb ab ba
      refine @eq_of_mem_enumFrom _ (l ++ [x]) 0 a b ?_ ?_ (fst_eq_of_enumLE ab ba)
      · rw [← List.enum, tagged]
        exact List.mem_mergeSort.mp ha
      · rw [← List.enum, tagged]
        rcases List.mem_merge.mp hb with hb | hb
        · exact List.mem_append_left _ (List.mem_mergeSort.mp hb)
        · exact List.mem_append_right _ hb
    · exact List.sorted_mergeSort order order' _
    · exact List.sorted_merge order order' _ _ (List.sorted_mergeSort order order' _) (by simp)
    · exact (List.mergeSort_perm _ _).trans
        ((List.merge_perm_append _).trans (((List.mergeSort_perm _ _).append_right _))).symm
  rw [← List.mergeSort_enum, tagged, merged, List.merge_stable, List.mergeSort_enum]
  · rfl
  · intro a b ha hb
    rw [List.mem_singleton.mp hb]
    exact Nat.le_of_lt (List.fst_lt_of_mem_enum (List.mem_mergeSort.mp ha))

end StableSort

/-! ## Python's comparison of priorities -/

namespace Value

/-- What a value is to `<`: a number, a string or a list compares only with one of its own
kind, `None` and a dict with nothing. -/
inductive Kind where
  | number
  | string
  | list
  | other
  deriving DecidableEq

def kind : Value → Kind
  | bool _ | int _ | float _ => .number
  | str _ => .string
  | list _ => .list
  | null | dict _ => .other

/-- The text a value stands for when two strings are compared. -/
def string? : Value → Option String
  | str s => some s
  | _ => none

def items : Value → List Value
  | list items => items
  | _ => []

variable {v w : Value}

theorem kind_of_number {a : ℚ} (found : v.number? = some a) : v.kind = .number := by
  cases v <;> first | rfl | nomatch found

theorem eq_list_of_kind (listed : v.kind = .list) : ∃ xs, v = list xs := by
  cases v <;> first | exact ⟨_, rfl⟩ | nomatch listed

theorem lessThan_of_lists (left : v.kind = .list) (right : w.kind = .list) :
    v.lessThan w = listLessThan v.items w.items := by
  obtain ⟨xs, rfl⟩ := eq_list_of_kind left
  obtain ⟨ys, rfl⟩ := eq_list_of_kind right
  exact lessThan.eq_1 xs ys

theorem pyEq_comm_of_scalar (nulls : v = null → w = null → False)
    (strs : ∀ a b, v = str a → w = str b → False)
    (lists : ∀ xs ys, v = list xs → w = list ys → False)
    (dicts : ∀ xs ys, v = dict xs → w = dict ys → False) : pyEq v w = pyEq w v := by
  rw [pyEq.eq_5 v w nulls strs lists dicts, pyEq.eq_5 w v (fun h h' => nulls h' h)
    (fun a b h h' => strs b a h' h) (fun xs ys h h' => lists ys xs h' h)
    (fun xs ys h h' => dicts ys xs h' h)]
  cases v.number? <;> cases w.number? <;> simp only [Bool.beq_comm]

theorem pyEq_comm : ∀ v w : Value, pyEq v w = pyEq w v := by
  refine pyEq.induct _ (fun _ _ => True) (fun _ _ _ => True)
    (fun xs ys => pyEqList xs ys = pyEqList ys xs) ?nulls ?strs ?lists ?dicts ?numbers ?scalars
    ?entriesNil ?entriesCons ?entryNil ?entryHere ?entryLater ?cons ?nil ?ends
  case nulls => rfl
  case strs => exact fun a b => by simp only [pyEq, Bool.beq_comm]
  case lists => exact fun xs ys items => by simp only [pyEq, items]
  case dicts => exact fun xs ys _ _ => by simp only [pyEq, Bool.and_comm]
  case numbers => exact fun v w nulls strs lists dicts _ _ _ _ =>
    pyEq_comm_of_scalar nulls strs lists dicts
  case scalars => exact fun v w nulls strs lists dicts _ =>
    pyEq_comm_of_scalar nulls strs lists dicts
  case cons => exact fun x xs y ys head tail => by simp only [pyEqList, head, tail]
  case nil => rfl
  case ends =>
    exact fun xs ys conses nils => by
      show pyEqList xs ys = pyEqList ys xs
      rw [pyEqList.eq_3 xs ys conses nils, pyEqList.eq_3 ys xs
        (fun y ys' x xs' h h' => conses x xs' y ys' h' h) (fun h h' => nils h' h)]
  all_goals intros; trivial

theorem lessThan_eq_error :
    ∀ v w : Value, ∀ e, v.lessThan w = .error e → e = .other "TypeError" := by
  refine lessThan.induct _
    (fun xs ys => ∀ e, listLessThan xs ys = .error e → e = .other "TypeError")
    ?lists ?numbers ?strings ?others ?same ?differ ?ends
  case lists => exact fun xs ys items e raised => items e (by rwa [lessThan.eq_1] at raised)
  case numbers =>
    exact fun v w lists a b right left e raised => by
      rw [lessThan.eq_2 v w a b left right lists] at raised; cases raised
  case strings => exact fun a b _ _ e raised => by rw [lessThan.eq_3] at raised; cases raised
  case others =>
    exact fun v w lists numbers strs e raised => by
      rw [lessThan.eq_4 v w strs lists numbers] at raised; cases raised; rfl
  case same =>
    exact fun x xs y ys equal tail e raised =>
      tail e (by rwa [listLessThan.eq_1, if_pos equal] at raised)
  case differ =>
    exact fun x xs y ys differs head e raised =>
      head e (by rwa [listLessThan.eq_1, if_neg differs] at raised)
  case ends =>
    exact fun xs ys conses e raised => by
      rw [listLessThan.eq_2 xs ys conses] at raised; cases raised

theorem lessThan_eq_ok :
    ∀ v w : Value, ∀ below, v.lessThan w = .ok below → v.kind = w.kind ∧ v.kind ≠ .other := by
  refine lessThan.induct _ (fun _ _ => True) ?lists ?numbers ?strings ?others ?same ?differ ?ends
  case lists => exact fun _ _ _ _ _ => ⟨rfl, nofun⟩
  case numbers =>
    exact fun v w _ a b right left _ _ => by
      rw [kind_of_number left, kind_of_number right]; exact ⟨rfl, nofun⟩
  case strings => exact fun _ _ _ _ _ _ => ⟨rfl, nofun⟩
  case others =>
    exact fun v w lists numbers strs below compared => by
      rw [lessThan.eq_4 v w strs lists numbers] at compared; cases compared
  all_goals intros; trivial

theorem decide_lt_asymm {α : Type} [Preorder α] {a b : α} [Decidable (a < b)] [Decidable (b < a)]
    (below : (pure (decide (a < b)) : Except Error Bool) = .ok true) :
    (pure (decide (b < a)) : Except Error Bool) = .ok false := by
  simp only [except_pure, Except.ok.injEq, decide_eq_true_eq, decide_eq_false_iff_not] at below ⊢
  exact lt_asymm below

theorem lessThan_asymm : ∀ v w : Value, v.lessThan w = .ok true → w.lessThan v = .ok false := by
  refine lessThan.induct _
    (fun xs ys => listLessThan xs ys = .ok true → listLessThan ys xs = .ok false)
    ?lists ?numbers ?strings ?others ?same ?differ ?ends
  case lists => exact fun xs ys items below => by rw [lessThan.eq_1] at below ⊢; exact items below
  case numbers =>
    exact fun v w lists a b right left below => by
      rw [lessThan.eq_2 v w a b left right lists] at below
      rw [lessThan.eq_2 w v b a right left fun ys xs h h' => lists xs ys h' h]
      exact decide_lt_asymm below
  case strings =>
    exact fun a b _ _ below => by
      rw [lessThan.eq_3] at below ⊢
      exact decide_lt_asymm below
  case others =>
    exact fun v w lists numbers strs below => by
      rw [lessThan.eq_4 v w strs lists numbers] at below; cases below
  case same =>
    exact fun x xs y ys equal tail below => by
      rw [listLessThan.eq_1, if_pos equal] at below
      rw [listLessThan.eq_1, if_pos (pyEq_comm y x ▸ equal)]
      exact tail below
  case differ =>
    exact fun x xs y ys differs head below => by
      rw [listLessThan.eq_1, if_neg differs] at below
      rw [listLessThan.eq_1, if_neg (pyEq_comm y x ▸ differs)]
      exact head below
  case ends =>
    exact fun xs ys conses below => by
      rw [listLessThan.eq_2 xs ys conses] at below
      rw [listLessThan.eq_2 ys xs fun y ys' x xs' h h' => conses x xs' y ys' h' h]
      exact decide_lt_asymm below

theorem number_of_isSome (found : v.number?.isSome) : v.number? = some (v.number?.getD 0) := by
  cases v <;> first | rfl | nomatch found

theorem lessThan_of_numbers (left : v.number?.isSome) (right : w.number?.isSome) :
    v.lessThan w = .ok (decide (v.number?.getD 0 < w.number?.getD 0)) :=
  lessThan.eq_2 v w _ _ (number_of_isSome left) (number_of_isSome right)
    fun xs _ listed _ => by subst listed; cases left

theorem pyEq_of_numbers (left : v.number?.isSome) (right : w.number?.isSome) :
    pyEq v w = decide (v.number?.getD 0 = w.number?.getD 0) := by
  rw [pyEq.eq_5 v w (fun h _ => by subst h; cases left) (fun _ _ h _ => by subst h; cases left)
    (fun _ _ h _ => by subst h; cases left) (fun _ _ h _ => by subst h; cases left),
    number_of_isSome left, number_of_isSome right]
  exact Bool.beq_eq_decide_eq _ _

theorem eq_str_of_string (found : v.string?.isSome) : v = str (v.string?.getD "") := by
  cases v <;> first | rfl | nomatch found

theorem lessThan_of_strings (left : v.string?.isSome) (right : w.string?.isSome) :
    v.lessThan w = .ok (decide (v.string?.getD "" < w.string?.getD "")) := by
  rw [eq_str_of_string left, eq_str_of_string right]
  exact lessThan.eq_3 _ _

theorem pyEq_of_strings (left : v.string?.isSome) (right : w.string?.isSome) :
    pyEq v w = decide (v.string?.getD "" = w.string?.getD "") := by
  rw [eq_str_of_string left, eq_str_of_string right]
  exact (pyEq.eq_2 _ _).trans (Bool.beq_eq_decide_eq _ _)

theorem Kind.mem_of_ne_other {kind : Kind} (comparable : kind ≠ .other) :
    kind ∈ [Kind.number, .string, .list] := by
  cases kind <;> simp_all

section Keyed

variable {K : Type} [LinearOrder K]

theorem cons_lt_cons_of_ne {a b : K} {as bs : List K} (differs : a ≠ b) :
    a :: as < b :: bs ↔ a < b := by
  constructor
  · intro below
    cases below with
    | cons => exact absurd rfl differs
    | rel below => exact below
  · exact List.Lex.rel

variable (key : Value → K) (P : Value → Prop)
  (equal : ∀ {x y}, P x → P y → pyEq x y = decide (key x = key y))
  (less : ∀ {x y}, P x → P y → x.lessThan y = .ok (decide (key x < key y)))
include equal less

theorem listLessThan_keyed {xs ys : List Value} (left : ∀ x ∈ xs, P x) (right : ∀ y ∈ ys, P y) :
    listLessThan xs ys = .ok (decide (xs.map key < ys.map key)) := by
  induction xs generalizing ys with
  | nil =>
      rw [listLessThan.eq_2 [] ys (by simp)]
      cases ys with
      | nil => rfl
      | cons y ys =>
          have shorter : ([] : List K) < key y :: ys.map key := List.nil_lt_cons _ _
          simp only [List.map_nil, List.map_cons, decide_eq_true shorter, List.length_nil,
            List.length_cons, Nat.zero_lt_succ, decide_True, except_pure]
  | cons x xs ih =>
      cases ys with
      | nil => rw [listLessThan.eq_2 _ [] (by simp)]; rfl
      | cons y ys =>
          have first := left x (List.mem_cons_self x xs)
          have first' := right y (List.mem_cons_self y ys)
          have tail := ih (fun x' found => left x' (List.mem_cons_of_mem x found))
            fun y' found => right y' (List.mem_cons_of_mem y found)
          rw [listLessThan.eq_1, equal first first', List.map_cons, List.map_cons]
          by_cases same : key x = key y
          · rw [decide_eq_true same, if_pos rfl, tail, same]
            exact congrArg _ (decide_eq_decide.mpr List.Lex.cons_iff.symm)
          · rw [decide_eq_false same, if_neg Bool.false_ne_true, less first first']
            exact congrArg _ (decide_eq_decide.mpr (cons_lt_cons_of_ne same).symm)

end Keyed

end Value

/-- The rules whose priorities are all of one kind that `<` compares: at most one rule, or
priorities all numbers, all strings or all lists. -/
def Uniform (rules : List Rule) : Prop :=
  rules.length ≤ 1 ∨
    ∃ kind ∈ [Value.Kind.number, .string, .list], ∀ rule ∈ rules, (priority rule).kind = kind

instance : DecidablePred Uniform := fun _ => inferInstanceAs (Decidable (_ ∨ _))

/-- The rules whose priorities `<` orders totally: at most one rule, or priorities all numbers
(a bool counting as one), all strings, all lists of numbers or all lists of strings. -/
def Sortable (rules : List Rule) : Prop :=
  rules.length ≤ 1 ∨ (∀ rule ∈ rules, (priority rule).number?.isSome) ∨
    (∀ rule ∈ rules, (priority rule).string?.isSome) ∨
    (∀ rule ∈ rules, (priority rule).kind = .list ∧
      ∀ item ∈ (priority rule).items, item.number?.isSome) ∨
    ∀ rule ∈ rules, (priority rule).kind = .list ∧
      ∀ item ∈ (priority rule).items, item.string?.isSome

instance : DecidablePred Sortable := fun _ => inferInstanceAs (Decidable (_ ∨ _ ∨ _ ∨ _ ∨ _))

/-- Python's order under `reverse=True`: `rule` may stand before `other` when its priority is
not below the priority of `other`. -/
def notBelow (rule other : Rule) : Bool :=
  match (priority rule).lessThan (priority other) with
  | .ok below => !below
  | .error _ => false

theorem notBelow_iff {rule other : Rule} :
    notBelow rule other ↔ (priority rule).lessThan (priority other) = .ok false := by
  cases compared : (priority rule).lessThan (priority other) <;> simp [notBelow, compared]

/-! ## One insertion -/

section Insertion

variable {rule : Rule} {sorted sorted' : List Rule}

theorem insertByPriority_nil (inserted : insertByPriority rule [] = .ok sorted') :
    sorted' = [rule] := by
  cases inserted; rfl

theorem insertByPriority_cons {other : Rule} {rest : List Rule}
    (inserted : insertByPriority rule (other :: rest) = .ok sorted') :
    ((priority other).lessThan (priority rule) = .ok true ∧ sorted' = rule :: other :: rest) ∨
      ((priority other).lessThan (priority rule) = .ok false ∧
        ∃ rest', insertByPriority rule rest = .ok rest' ∧ sorted' = other :: rest') := by
  cases compared : (priority other).lessThan (priority rule) with
  | error e => simp [insertByPriority, compared] at inserted
  | ok below =>
      cases below <;> cases later : insertByPriority rule rest <;>
        simp_all [insertByPriority]

theorem insertByPriority_eq_merge (le : Rule → Rule → Bool)
    (agrees : ∀ other ∈ sorted, (priority other).lessThan (priority rule) = .ok (!le other rule)) :
    insertByPriority rule sorted = .ok (sorted.merge [rule] le) := by
  induction sorted with
  | nil => simp [insertByPriority]
  | cons other rest ih =>
      have rest_agrees := fun other' member => agrees other' (List.mem_cons_of_mem other member)
      cases before : le other rule <;>
        simp [insertByPriority, agrees other (List.mem_cons_self other rest), before,
          ih rest_agrees, List.cons_merge_cons]

theorem insertByPriority_perm (inserted : insertByPriority rule sorted = .ok sorted') :
    sorted'.Perm (rule :: sorted) := by
  induction sorted generalizing sorted' with
  | nil => rw [insertByPriority_nil inserted]
  | cons other rest ih =>
      rcases insertByPriority_cons inserted with ⟨-, rfl⟩ | ⟨-, rest', later, rfl⟩
      · exact List.Perm.refl _
      · exact ((ih later).cons other).trans (List.Perm.swap rule other rest)

theorem insertByPriority_chain {prev : Rule} (first : notBelow prev rule)
    (chain : List.Chain (notBelow · ·) prev sorted)
    (inserted : insertByPriority rule sorted = .ok sorted') :
    List.Chain (notBelow · ·) prev sorted' := by
  induction sorted generalizing prev sorted' with
  | nil => rw [insertByPriority_nil inserted]; exact .cons first .nil
  | cons other rest ih =>
      obtain ⟨ordered, chain⟩ := List.chain_cons.mp chain
      rcases insertByPriority_cons inserted with ⟨compared, rfl⟩ | ⟨compared, rest', later, rfl⟩
      · exact .cons first (.cons (notBelow_iff.mpr (Value.lessThan_asymm _ _ compared)) chain)
      · exact .cons ordered (ih (notBelow_iff.mpr compared) chain later)

theorem insertByPriority_sorted (ordered : sorted.Chain' (notBelow · ·))
    (inserted : insertByPriority rule sorted = .ok sorted') : sorted'.Chain' (notBelow · ·) := by
  cases sorted with
  | nil => rw [insertByPriority_nil inserted]; exact .nil
  | cons other rest =>
      rcases insertByPriority_cons inserted with ⟨compared, rfl⟩ | ⟨compared, rest', later, rfl⟩
      · exact .cons (notBelow_iff.mpr (Value.lessThan_asymm _ _ compared)) ordered
      · exact insertByPriority_chain (notBelow_iff.mpr compared) ordered later

theorem insertByPriority_eq_error {e : Error} (raised : insertByPriority rule sorted = .error e) :
    e = .other "TypeError" := by
  induction sorted with
  | nil => simp [insertByPriority] at raised
  | cons other rest ih =>
      cases compared : (priority other).lessThan (priority rule) with
      | error e' => simp_all [insertByPriority, Value.lessThan_eq_error _ _ _ compared]
      | ok below =>
          cases below <;> cases later : insertByPriority rule rest <;>
            simp_all [insertByPriority]

end Insertion

theorem sortByPriority_concat (rules : List Rule) (rule : Rule) :
    sortByPriority (rules ++ [rule]) = sortByPriority rules >>= insertByPriority rule := by
  simp only [sortByPriority, List.foldlM_append, List.foldlM_cons, List.foldlM_nil, bind_pure]

/-! ## The whole sort -/

section Sorting

variable {rules sorted : List Rule}

theorem sortByPriority_keyed {K : Type} [LinearOrder K] (key : Rule → K)
    (keyed : ∀ a ∈ rules, ∀ b ∈ rules,
      (priority a).lessThan (priority b) = .ok (decide (key a < key b))) :
    sortByPriority rules = .ok (rules.mergeSort notBelow) := by
  have agree : ∀ a ∈ rules, ∀ b ∈ rules, notBelow a b = !decide (key a < key b) :=
    fun a ha b hb => by simp [notBelow, keyed a ha b hb]
  have trans : ∀ a b c : Rule, !decide (key a < key b) → !decide (key b < key c) →
      !decide (key a < key c) := by
    simp only [Bool.not_eq_true', decide_eq_false_iff_not, not_lt]
    exact fun a b c ab bc => le_trans bc ab
  have total : ∀ a b : Rule, !decide (key a < key b) || !decide (key b < key a) := by
    simp only [Bool.or_eq_true, Bool.not_eq_true', decide_eq_false_iff_not, not_lt]
    exact fun a b => le_total (key b) (key a)
  rw [mergeSort_congr agree]
  clear agree
  induction rules using List.reverseRecOn with
  | nil => simp [sortByPriority]
  | append_singleton rules rule ih =>
      have earlier := fun a (ha : a ∈ rules) b (hb : b ∈ rules) =>
        keyed a (List.mem_append_left _ ha) b (List.mem_append_left _ hb)
      rw [sortByPriority_concat, ih earlier, except_ok_bind, mergeSort_concat trans total]
      apply insertByPriority_eq_merge
      intro other member
      rw [keyed other (List.mem_append_left _ (List.mem_mergeSort.mp member)) rule
        (List.mem_append_right _ (List.mem_singleton_self _)), Bool.not_not]

theorem sortByPriority_of_sortable (sortable : Sortable rules) :
    sortByPriority rules = .ok (rules.mergeSort notBelow) := by
  rcases sortable with short | numbers | strings | numberLists | stringLists
  · match rules, short with
    | [], _ => simp [sortByPriority]
    | [rule], _ => simp [sortByPriority, insertByPriority]
  · exact sortByPriority_keyed (fun rule => (priority rule).number?.getD 0)
      fun a ha b hb => Value.lessThan_of_numbers (numbers a ha) (numbers b hb)
  · exact sortByPriority_keyed (fun rule => (priority rule).string?.getD "")
      fun a ha b hb => (Value.lessThan_of_strings (strings a ha) (strings b hb)).trans
        (congrArg _ (decide_eq_decide.mpr Iff.rfl))
  · refine sortByPriority_keyed
      (fun rule => (priority rule).items.map fun item => item.number?.getD 0) fun a ha b hb => ?_
    rw [Value.lessThan_of_lists (numberLists a ha).1 (numberLists b hb).1]
    exact Value.listLessThan_keyed (fun item => item.number?.getD 0)
      (fun item => item.number?.isSome)
      Value.pyEq_of_numbers Value.lessThan_of_numbers (numberLists a ha).2 (numberLists b hb).2
  · refine sortByPriority_keyed
      (fun rule => (priority rule).items.map fun item => item.string?.getD "") fun a ha b hb => ?_
    rw [Value.lessThan_of_lists (stringLists a ha).1 (stringLists b hb).1]
    exact Value.listLessThan_keyed (fun item => item.string?.getD "")
      (fun item => item.string?.isSome)
      (fun left right => (Value.pyEq_of_strings left right).trans (decide_eq_decide.mpr Iff.rfl))
      (fun left right => (Value.lessThan_of_strings left right).trans
        (congrArg _ (decide_eq_decide.mpr Iff.rfl))) (stringLists a ha).2 (stringLists b hb).2

theorem forall_concat_of_short {P : Rule → Prop} {other rule : Rule} (member : other ∈ rules)
    (first : P other) (last : P rule) (kinds : rules.length ≤ 1 ∨ ∀ r ∈ rules, P r) :
    ∀ r ∈ rules ++ [rule], P r := by
  intro r found
  rcases List.mem_append.mp found with found | found
  · rcases kinds with short | all
    · match rules, short, member, found with
      | [_], _, member, found =>
          rw [List.mem_singleton.mp found, ← List.mem_singleton.mp member]; exact first
    · exact all r found
  · rw [List.mem_singleton.mp found]; exact last

theorem Uniform.concat {rule : Rule} {sorted' : List Rule} (uniform : Uniform rules)
    (perm : sorted.Perm rules) (inserted : insertByPriority rule sorted = .ok sorted') :
    Uniform (rules ++ [rule]) := by
  cases sorted with
  | nil =>
      rw [← perm.nil_eq]
      exact Or.inl (by simp)
  | cons other rest =>
      have member : other ∈ rules := perm.subset (List.mem_cons_self other rest)
      have compared : ∃ below, (priority other).lessThan (priority rule) = .ok below := by
        rcases insertByPriority_cons inserted with ⟨compared, -⟩ | ⟨compared, -⟩ <;>
          exact ⟨_, compared⟩
      obtain ⟨same, comparable⟩ := Value.lessThan_eq_ok _ _ _ compared.choose_spec
      refine Or.inr ⟨_, Value.Kind.mem_of_ne_other comparable,
        forall_concat_of_short member rfl same.symm ?_⟩
      rcases uniform with short | ⟨kind, -, all⟩
      · exact Or.inl short
      · exact Or.inr fun r found => (all r found).trans (all other member).symm

theorem sortByPriority_eq_ok (sorting : sortByPriority rules = .ok sorted) :
    sorted.Perm rules ∧ Uniform rules ∧ sorted.Chain' (notBelow · ·) := by
  induction rules using List.reverseRecOn generalizing sorted with
  | nil =>
      cases sorting
      exact ⟨List.Perm.refl _, Or.inl (by simp), trivial⟩
  | append_singleton rules rule ih =>
      rw [sortByPriority_concat] at sorting
      cases before : sortByPriority rules with
      | error e => simp [before] at sorting
      | ok sorted₀ =>
          rw [before, except_ok_bind] at sorting
          obtain ⟨perm, uniform, ordered⟩ := ih before
          exact ⟨(insertByPriority_perm sorting).trans
            ((perm.cons rule).trans (List.perm_append_singleton rule rules).symm),
            uniform.concat perm sorting, insertByPriority_sorted ordered sorting⟩

theorem sortByPriority_eq_error {e : Error} (raised : sortByPriority rules = .error e) :
    e = .other "TypeError" := by
  induction rules using List.reverseRecOn with
  | nil => cases raised
  | append_singleton rules rule ih =>
      rw [sortByPriority_concat] at raised
      cases before : sortByPriority rules with
      | error e' => rw [before] at raised; cases raised; exact ih before
      | ok sorted₀ => rw [before, except_ok_bind] at raised; exact insertByPriority_eq_error raised

/-- The sort of `_write_rules_file` is a stable merge sort on totally ordered priorities, raises
`TypeError` on priorities of two kinds, and never leaves a priority below the next. -/
theorem sortByPriority_eq_mergeSort (rules : List Rule) :
    (Sortable rules → sortByPriority rules = .ok (rules.mergeSort notBelow)) ∧
      (¬ Uniform rules → sortByPriority rules = .error (.other "TypeError")) ∧
      ∀ sorted, sortByPriority rules = .ok sorted →
        sorted.Perm rules ∧ sorted.Chain' (notBelow · ·) := by
  refine ⟨sortByPriority_of_sortable, fun mixed => ?_, fun sorted sorting => ?_⟩
  · cases sorting : sortByPriority rules with
    | ok sorted => exact absurd (sortByPriority_eq_ok sorting).2.1 mixed
    | error e => rw [sortByPriority_eq_error sorting]
  · obtain ⟨perm, -, ordered⟩ := sortByPriority_eq_ok sorting
    exact ⟨perm, ordered⟩

/-- Rules of equal priority keep the order they came in. -/
example : sortByPriority [[("name", .str "first"), ("priority", .int 1)],
    [("name", .str "top"), ("priority", .int 5)],
    [("name", .str "second"), ("priority", .bool true)]] =
    .ok [[("name", .str "top"), ("priority", .int 5)],
      [("name", .str "first"), ("priority", .int 1)],
      [("name", .str "second"), ("priority", .bool true)]] := rfl

/-- A number and a string do not compare. -/
example : sortByPriority [[("priority", .int 1)], [("priority", .str "high")]] =
    .error (.other "TypeError") := rfl

end Sorting

/-! ## The rules file after a sync -/

/-- A sync that returns writes the converted rules with no priority below the next, in stable order
when `<` orders the priorities totally. -/
theorem syncRules_output_sorted {kube : Kube} {c c' : Controller} {crds : List Value}
    (seen : kube.items c.listed = .ok crds) (identified : ∀ crd ∈ crds, hasSpecUuid crd = true)
    {u : Unit} (returned : syncRules kube c = .ok u c') :
    let cleaned := (crds.filterMap fun crd => (ruleOf crd "").toOption).map cleanRule
    ∃ sorted, c'.output = some sorted ∧ sorted.Perm cleaned ∧ sorted.Chain' (notBelow · ·) ∧
      Uniform cleaned ∧ (Sortable cleaned → sorted = cleaned.mergeSort notBelow) := by
  obtain ⟨sorted, sorting, output⟩ := syncRules_output seen identified returned
  obtain ⟨perm, uniform, ordered⟩ := sortByPriority_eq_ok sorting
  refine ⟨sorted, output, perm, ordered, uniform, fun sortable => ?_⟩
  rw [sortByPriority_of_sortable sortable, Except.ok.injEq] at sorting
  exact sorting.symm

def bmcRule : Value := inspectionRule "bmc" [("uuid", .str "bmc"), ("priority", .int 20)]

theorem syncRules_output_sorted_pair :
    ∃ c', syncRules (clusterOf [lldpRule, bmcRule]) idle = .ok () c' ∧
      let cleaned :=
        ([lldpRule, bmcRule].filterMap fun crd => (ruleOf crd "").toOption).map cleanRule
      ∃ sorted, c'.output = some sorted ∧ sorted.Perm cleaned ∧ sorted.Chain' (notBelow · ·) ∧
        Uniform cleaned ∧ (Sortable cleaned → sorted = cleaned.mergeSort notBelow) :=
  ⟨_, rfl, @syncRules_output_sorted (clusterOf [lldpRule, bmcRule]) idle _ _ rfl (by decide) () rfl⟩

end Ironic
