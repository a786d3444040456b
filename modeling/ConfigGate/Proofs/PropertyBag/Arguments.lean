import ConfigGate.Proofs.PropertyBag
import Mathlib.Algebra.Group.Nat.Even
import Mathlib.Data.Finset.Card

/-! Bags that are made of lists of arguments in which keys and values alternate. The last value of a key counts,
and the keys stay in the order in which they came first. Bags are compared as maps, so that neither order nor
repetition counts, and equal bags have equal hashes. -/
namespace ConfigGate.PropertyBag

variable {a b bag : PropertyBag} {arguments : List String} {pairs : List (String × String)} {key value : String}

/-- Every second argument, from the first on: the keys of an argument list. -/
def everySecond : List String → List String
  | [] => []
  | [first] => [first]
  | first :: _ :: rest => first :: everySecond rest

/-- The value stands behind the key in the arguments, and the key is no key again after that. -/
def IsLastValue (arguments : List String) (key value : String) : Prop :=
  ∃ before after, arguments = before ++ key :: value :: after ∧ Even before.length ∧ key ∉ everySecond after

/-- The arguments that pairs come from. -/
def alternate (pairs : List (String × String)) : List String :=
  pairs.flatMap fun (key, value) => [key, value]

theorem alternate_append (first second : List (String × String)) :
    alternate (first ++ second) = alternate first ++ alternate second :=
  List.flatMap_append

theorem even_length_alternate (pairs : List (String × String)) : Even (alternate pairs).length := by
  induction pairs with
  | nil => exact Even.zero
  | cons pair rest ih => exact ih.add (by decide : Even 2)

theorem everySecond_alternate (pairs : List (String × String)) :
    everySecond (alternate pairs) = pairs.map Prod.fst := by
  induction pairs with
  | nil => rfl
  | cons pair rest ih => exact congrArg (pair.1 :: ·) ih

theorem pairUp_alternate (pairs : List (String × String)) : pairUp (alternate pairs) = some pairs := by
  induction pairs with
  | nil => rfl
  | cons pair rest ih => exact congrArg (Option.map (pair :: ·)) ih

theorem alternate_injective : Function.Injective alternate := fun first second hSame => by
  rw [← Option.some_inj, ← pairUp_alternate, ← pairUp_alternate, hSame]

/-- An argument list of even length comes from pairs. -/
theorem exists_alternate (h : Even arguments.length) : ∃ pairs, arguments = alternate pairs := by
  induction arguments using pairUp.induct with
  | case1 => exact ⟨[], rfl⟩
  | case2 => exact absurd h (by simp)
  | case3 key value rest ih =>
      have hRest : Even rest.length := by simpa [Nat.even_add_one] using h
      obtain ⟨pairs, rfl⟩ := ih hRest
      exact ⟨(key, value) :: pairs, rfl⟩

/-- An argument list of odd length has a key without a value. -/
theorem pairUp_of_odd (h : ¬ Even arguments.length) : pairUp arguments = none := by
  induction arguments using pairUp.induct with
  | case1 => exact absurd Even.zero h
  | case2 => rfl
  | case3 key value rest ih =>
      have hRest : ¬ Even rest.length := by simpa [Nat.even_add_one] using h
      rw [pairUp, ih hRest]
      rfl

theorem ofArguments_alternate (pairs : List (String × String)) :
    ofArguments (alternate pairs) = .ok (ofPairs pairs) := by
  rw [ofArguments, pairUp_alternate]

/-- The bag of pairs maps a key to its last value in the arguments. -/
theorem get?_ofPairs_iff : (ofPairs pairs).get? key = some value ↔ IsLastValue (alternate pairs) key value := by
  have hLookup : (ofPairs pairs).get? key = pairs.reverse.lookup key := Keyed.lookup_lastWins key pairs
  rw [hLookup, List.lookup_eq_some_iff]
  constructor
  · rintro ⟨later, earlier, hPairs, hLater⟩
    have hSplit : pairs = earlier.reverse ++ (key, value) :: later.reverse := by
      rw [← List.reverse_reverse pairs, hPairs]
      simp
    refine ⟨alternate earlier.reverse, alternate later.reverse, ?_, even_length_alternate _, ?_⟩
    · rw [hSplit, alternate_append]
      rfl
    · rw [everySecond_alternate, List.map_reverse, List.mem_reverse, List.mem_map]
      rintro ⟨pair, hMem, rfl⟩
      exact absurd (hLater pair hMem) (by simp)
  · rintro ⟨before, after, hArguments, hBefore, hAfter⟩
    have hEven : Even after.length := by
      have hLength := even_length_alternate pairs
      rw [hArguments, List.length_append, List.length_cons, List.length_cons, Nat.even_add] at hLength
      simpa [Nat.even_add_one] using hLength.mp hBefore
    obtain ⟨earlier, rfl⟩ := exists_alternate hBefore
    obtain ⟨later, rfl⟩ := exists_alternate hEven
    have hSplit : pairs = earlier ++ (key, value) :: later := alternate_injective <| by
      rw [hArguments, alternate_append]
      rfl
    refine ⟨later.reverse, earlier.reverse, by simp [hSplit], fun pair hMem => ?_⟩
    rw [everySecond_alternate] at hAfter
    exact bne_iff_ne.mpr fun hKey => hAfter (hKey ▸ List.mem_map_of_mem (List.mem_reverse.mp hMem))

/-- Bags are equal exactly if they map each key to the same value. -/
theorem beq_iff_get? : (a == b) = true ↔ ∀ key, a.get? key = b.get? key := by
  have hGet (bag : PropertyBag) (key value : String) : bag.get? key = some value ↔ (key, value) ∈ bag.entries := by
    refine ⟨fun h => ?_, Keyed.lookup_of_mem bag.distinct⟩
    obtain ⟨before, after, hEntries, -⟩ := List.lookup_eq_some_iff.mp h
    rw [hEntries]
    exact List.mem_append_right before (.head _)
  rw [beq_iff_perm, List.perm_ext_iff_of_nodup a.nodup_entries b.nodup_entries]
  constructor
  · refine fun h key => Option.ext fun value => ?_
    rw [hGet, hGet, h]
  · rintro h ⟨key, value⟩
    rw [← hGet, ← hGet, h]

/-- What the arguments of a list come to as a bag. -/
structure IsBagOf (arguments : List String) (bag : PropertyBag) : Prop where
  value : ∀ key value, bag.get? key = some value ↔ IsLastValue arguments key value
  order : bag.keys = (everySecond arguments).eraseDups
  size : bag.size = (everySecond arguments).toFinset.card

theorem isBagOf_ofPairs (pairs : List (String × String)) : IsBagOf (alternate pairs) (ofPairs pairs) := by
  have hOrder : (ofPairs pairs).keys = (everySecond (alternate pairs)).eraseDups := by
    rw [everySecond_alternate]
    exact Keyed.keys_lastWins pairs
  refine ⟨fun _ _ => get?_ofPairs_iff, hOrder, ?_⟩
  have hKeys : (ofPairs pairs).keys.toFinset = (everySecond (alternate pairs)).toFinset := by
    ext key
    rw [hOrder, List.mem_toFinset, List.mem_toFinset, List.mem_eraseDups]
  calc (ofPairs pairs).size
    _ = (ofPairs pairs).keys.length := (List.length_map Prod.fst).symm
    _ = (ofPairs pairs).keys.toFinset.card := (List.toFinset_card_of_nodup (ofPairs pairs).distinct).symm
    _ = _ := congrArg Finset.card hKeys

theorem IsBagOf.beq_iff {first second : List String} (hFirst : IsBagOf first a) (hSecond : IsBagOf second b) :
    (a == b) = true ↔ ∀ key value, IsLastValue first key value ↔ IsLastValue second key value := by
  rw [beq_iff_get?]
  constructor
  · intro h key value
    rw [← hFirst.value, ← hSecond.value, h]
  · refine fun h key => Option.ext fun value => ?_
    rw [hFirst.value, hSecond.value, h]

theorem isBagOf_of_ofArguments (h : ofArguments arguments = .ok bag) : IsBagOf arguments bag := by
  by_cases hEven : Even arguments.length
  · obtain ⟨pairs, rfl⟩ := exists_alternate hEven
    obtain rfl := Except.ok.inj ((ofArguments_alternate pairs).symm.trans h)
    exact isBagOf_ofPairs pairs
  · rw [ofArguments, pairUp_of_odd hEven] at h
    cases h

/-- Every argument list of even length makes a bag with the last value of each key, in the order in which the keys
came first, and none of odd length makes one. Two such bags are equal exactly if the lists have the same last values,
and equal bags, whatever they were made of, have the same set of entries and the same hash. -/
theorem made_of_arguments :
    (∀ arguments : List String, Even arguments.length →
      ∃ bag, ofArguments arguments = .ok bag ∧ IsBagOf arguments bag) ∧
    (∀ arguments : List String, ¬ Even arguments.length → ofArguments arguments = .error .unpaired) ∧
    (∀ (first second : List String) (a b : PropertyBag), ofArguments first = .ok a → ofArguments second = .ok b →
      ((a == b) = true ↔ ∀ key value, IsLastValue first key value ↔ IsLastValue second key value)) ∧
    ∀ a b : PropertyBag, (a == b) = true → a.entries.toFinset = b.entries.toFinset ∧ hash a = hash b := by
  refine ⟨fun arguments hEven => ?_, fun arguments hOdd => ?_, fun first second a b hFirst hSecond => ?_,
    fun a b h => ?_⟩
  · obtain ⟨pairs, rfl⟩ := exists_alternate hEven
    exact ⟨ofPairs pairs, ofArguments_alternate pairs, isBagOf_ofPairs pairs⟩
  · rw [ofArguments, pairUp_of_odd hOdd]
  · exact (isBagOf_of_ofArguments hFirst).beq_iff (isBagOf_of_ofArguments hSecond)
  · exact ⟨List.toFinset_eq_of_perm _ _ (beq_iff_perm.mp h), hash_eq_of_beq h⟩

/-- Two lists in other orders, one of them with a key twice, and a list that ends with a key. -/
theorem made_of_arguments_twice :
    (∃ bag, ofArguments ["a", "1", "b", "2", "a", "3"] = .ok bag ∧
      IsBagOf ["a", "1", "b", "2", "a", "3"] bag ∧ bag.entries = [("a", "3"), ("b", "2")]) ∧
    ofArguments ["a", "1", "b"] = .error .unpaired ∧
    ∃ a b, ofArguments ["a", "1", "b", "2", "a", "3"] = .ok a ∧ ofArguments ["b", "2", "a", "3"] = .ok b ∧
      (∀ key value, IsLastValue ["a", "1", "b", "2", "a", "3"] key value ↔
        IsLastValue ["b", "2", "a", "3"] key value) ∧
      hash a = hash b := by
  obtain ⟨bag, hBag, hMade⟩ := made_of_arguments.1 ["a", "1", "b", "2", "a", "3"] (by decide)
  have hEqual : (ofPairs [("a", "1"), ("b", "2"), ("a", "3")] == ofPairs [("b", "2"), ("a", "3")]) = true := by
    decide +kernel
  refine ⟨⟨bag, hBag, hMade, ?_⟩, made_of_arguments.2.1 _ (by decide), _, _, rfl, rfl,
    (made_of_arguments.2.2.1 _ _ _ _ rfl rfl).mp hEqual, (made_of_arguments.2.2.2 _ _ hEqual).2⟩
  obtain rfl := Except.ok.inj hBag
  decide +kernel

end ConfigGate.PropertyBag
