import Mathlib.Data.List.Induction
import Readout.Value.Key

/-!
# Entries under keys

An entry is found under every key that is the same as the one it was put under, until
another entry is put under such a key. A list of entries is kept in full exactly if no
two of its keys are the same. For the first it is enough that sameness is symmetric and
transitive, as it is for values. It need not be reflexive: a real that is no number is
not even the same key as itself.
-/

namespace Readout

/-! ## Ledgers -/

namespace Ledger

variable {same : κ → κ → Bool}

/-- The last of a list of entries is put after all others. -/
theorem ofEntries_append_singleton (earlier : List (κ × α)) (last : κ × α) :
    ofEntries same (earlier ++ [last]) = (ofEntries same earlier).put last.1 last.2 :=
  List.foldl_append

section Lookup

variable
  (symmetric : ∀ left right, same left right = true → same right left = true)
  (transitive : ∀ left middle right, same left middle = true →
    same middle right = true → same left right = true)

include symmetric transitive

/-- What is the same as one of two keys that are the same is the same as the other. -/
theorem same_congr_left {left right : κ} (alike : same left right = true) (key : κ) :
    same left key = same right key := by
  rw [Bool.eq_iff_iff]
  exact ⟨transitive _ _ _ (symmetric _ _ alike), transitive _ _ _ alike⟩

/-- A change shows under the keys that are the same as the changed one, and only
there. -/
theorem find?_update
    (ledger : Ledger same α)
    (key other : κ)
    (change : Option α → α) :
    (ledger.update key change).find? other =
      if same key other then some (change (ledger.find? key)) else ledger.find? other := by
  rw [find?, toList_update, find?, find?]
  induction ledger.toList with
  | nil => cases shown : same key other <;> simp [amend, shown]
  | cons head rest inductionHypothesis =>
      obtain ⟨first, entry⟩ := head
      cases changed : same first key with
      | true =>
          have shown := same_congr_left symmetric transitive changed other
          rw [amend_cons_of_same change entry rest changed, List.find?_cons,
            List.find?_cons, List.find?_cons, shown, changed]
          cases same key other <;> rfl
      | false =>
          rw [amend_cons_of_not_same change entry rest changed, List.find?_cons,
            List.find?_cons, List.find?_cons, changed]
          cases found : same first other with
          | false => exact inductionHypothesis
          | true =>
              -- The first key is the same as the other one, so the changed one is not.
              have apart : same key other = false := by
                rw [Bool.eq_false_iff]
                intro shown
                rw [transitive _ _ _ found (symmetric _ _ shown)] at changed
                cases changed
              rw [apart, if_neg Bool.false_ne_true]

/-- The last entry that was put under a key is found there. -/
theorem find?_ofEntries (entries : List (κ × α)) (key : κ) :
    (ofEntries same entries).find? key =
      (entries.reverse.find? fun entry => same entry.1 key).map Prod.snd := by
  induction entries using List.reverseRecOn with
  | nil => rfl
  | append_singleton earlier last inductionHypothesis =>
      rw [ofEntries_append_singleton, put, find?_update symmetric transitive,
        inductionHypothesis, List.reverse_append, List.reverse_singleton,
        List.singleton_append, List.find?_cons]
      cases same last.1 key <;> rfl

end Lookup

/-- The keys of a list of entries are kept in their order, apart from those that are
the same as an earlier one. -/
theorem keys_ofEntries_sublist (entries : List (κ × α)) :
    (ofEntries same entries).keys.Sublist (entries.map Prod.fst) := by
  induction entries using List.reverseRecOn with
  | nil => exact List.Sublist.refl _
  | append_singleton earlier last inductionHypothesis =>
      rw [ofEntries_append_singleton, put, keys_update, List.map_append,
        List.map_singleton]
      split
      · exact inductionHypothesis.trans (List.sublist_append_left _ _)
      · exact inductionHypothesis.append_right _

/-- A key of a list of entries is kept, or a key that is the same. -/
theorem mem_keys_ofEntries
    {entries : List (κ × α)}
    {key : κ}
    (member : key ∈ entries.map Prod.fst) :
    key ∈ (ofEntries same entries).keys ∨
      ∃ known ∈ (ofEntries same entries).keys, same known key = true := by
  induction entries using List.reverseRecOn with
  | nil => cases member
  | append_singleton earlier last inductionHypothesis =>
      rw [List.map_append, List.map_singleton, List.mem_append, List.mem_singleton]
        at member
      rw [ofEntries_append_singleton, put, keys_update]
      split
      · next known =>
          rcases member with member | rfl
          · exact inductionHypothesis member
          · exact .inr (List.any_eq_true.mp known)
      · rcases member with member | rfl
        · refine (inductionHypothesis member).imp (List.mem_append_left _) ?_
          rintro ⟨known, kept, alike⟩
          exact ⟨known, List.mem_append_left _ kept, alike⟩
        · exact .inl (List.mem_append_right _ (List.mem_singleton_self _))

/-- An entry under a new key goes last. -/
theorem toList_put_of_new
    {ledger : Ledger same α}
    {key : κ}
    (isNew : ∀ known ∈ ledger.keys, same known key = false)
    (entry : α) :
    (ledger.put key entry).toList = ledger.toList ++ [(key, entry)] := by
  rw [keys, map] at isNew
  rw [put, toList_update]
  generalize ledger.toList = entries at isNew
  induction entries with
  | nil => rfl
  | cons head rest inductionHypothesis =>
      rw [List.map_cons, List.forall_mem_cons] at isNew
      rw [amend_cons_of_not_same _ head.2 rest isNew.1, inductionHypothesis isNew.2,
        List.cons_append]

/-- Entries no two keys of which are the same are all kept. -/
theorem toList_ofEntries_of_distinct
    {entries : List (κ × α)}
    (distinct : (entries.map Prod.fst).Pairwise fun earlier later =>
      same earlier later = false) :
    (ofEntries same entries).toList = entries := by
  induction entries using List.reverseRecOn with
  | nil => rfl
  | append_singleton earlier last inductionHypothesis =>
      rw [List.map_append, List.map_singleton, List.pairwise_append] at distinct
      obtain ⟨distinctEarlier, _, isNew⟩ := distinct
      have kept := inductionHypothesis distinctEarlier
      rw [ofEntries_append_singleton, toList_put_of_new, kept]
      rw [keys, map, kept]
      exact fun known member => isNew known member _ (List.mem_singleton_self _)

/-- No entry is lost exactly if no two of the keys are the same. -/
theorem length_ofEntries_eq_iff {entries : List (κ × α)} :
    (ofEntries same entries).toList.length = entries.length ↔
      (entries.map Prod.fst).Pairwise fun earlier later => same earlier later = false := by
  constructor
  · intro sameLength
    have sameKeys : (ofEntries same entries).keys = entries.map Prod.fst := by
      refine (keys_ofEntries_sublist entries).eq_of_length ?_
      rw [keys, map, List.length_map, List.length_map, sameLength]
    rw [← sameKeys]
    exact (ofEntries same entries).distinct
  · intro distinct
    rw [toList_ofEntries_of_distinct distinct]

end Ledger

/-! ## Values as keys -/

namespace Value

/-- Two values are the same key if they are tuples of the same keys, or both the same
key without elements. -/
theorem sameKey_eq_true_iff {left right : Value} :
    sameKey left right = true ↔
      (∃ lefts rights, left = .tuple lefts ∧ right = .tuple rights ∧
        sameKeys lefts rights = true) ∨
      ∃ atom, left.keyAtom? = some atom ∧ right.keyAtom? = some atom := by
  rw [sameKey.eq_def]
  split
  · simp [keyAtom?]
  · next notTuples =>
      have noTuples : ¬∃ lefts rights, left = .tuple lefts ∧ right = .tuple rights ∧
          sameKeys lefts rights = true := by
        rintro ⟨lefts, rights, rfl, rfl, _⟩
        exact notTuples lefts rights rfl rfl
      rw [or_iff_right noTuples]
      split
      · next leftAtom rightAtom isLeft isRight => simp [isLeft, isRight, eq_comm]
      · next noAtoms =>
          refine iff_of_false Bool.false_ne_true ?_
          rintro ⟨atom, isLeft, isRight⟩
          exact noAtoms atom atom isLeft isRight

mutual

/-- Sameness of keys goes both ways. -/
theorem sameKey_symm
    (left right : Value)
    (alike : sameKey left right = true) :
    sameKey right left = true := by
  rw [sameKey_eq_true_iff] at alike ⊢
  obtain ⟨lefts, rights, rfl, rfl, elements⟩ | ⟨atom, isLeft, isRight⟩ := alike
  · exact .inl ⟨rights, lefts, rfl, rfl, sameKeys_symm lefts rights elements⟩
  · exact .inr ⟨atom, isRight, isLeft⟩

theorem sameKeys_symm
    (lefts rights : List Value)
    (alike : sameKeys lefts rights = true) :
    sameKeys rights lefts = true := by
  match lefts, rights, alike with
  | [], [], _ => rfl
  | left :: lefts, right :: rights, alike =>
      rw [sameKeys, Bool.and_eq_true] at alike ⊢
      exact ⟨sameKey_symm left right alike.1, sameKeys_symm lefts rights alike.2⟩

end

theorem sameKey_comm (left right : Value) : sameKey left right = sameKey right left :=
  Bool.eq_iff_iff.mpr ⟨sameKey_symm left right, sameKey_symm right left⟩

mutual

/-- Two keys that are the same as a third one are the same. -/
theorem sameKey_trans
    (left middle right : Value)
    (first : sameKey left middle = true)
    (second : sameKey middle right = true) :
    sameKey left right = true := by
  rw [sameKey_eq_true_iff] at first second ⊢
  obtain ⟨lefts, middles, rfl, rfl, firsts⟩ | ⟨atom, isLeft, isMiddle⟩ := first
  · obtain ⟨_, rights, ⟨⟩, rfl, seconds⟩ | ⟨_, noTuple, _⟩ := second
    · exact .inl ⟨lefts, rights, rfl, rfl,
        sameKeys_trans lefts middles rights firsts seconds⟩
    · cases noTuple
  · obtain ⟨_, _, rfl, _, _⟩ | ⟨other, isOther, isRight⟩ := second
    · cases isMiddle
    · obtain rfl : other = atom := Option.some.inj (isOther.symm.trans isMiddle)
      exact .inr ⟨other, isLeft, isRight⟩

theorem sameKeys_trans
    (lefts middles rights : List Value)
    (first : sameKeys lefts middles = true)
    (second : sameKeys middles rights = true) :
    sameKeys lefts rights = true := by
  match lefts, middles, rights, first, second with
  | [], [], [], _, _ => rfl
  | left :: lefts, middle :: middles, right :: rights, first, second =>
      rw [sameKeys, Bool.and_eq_true] at first second ⊢
      exact ⟨sameKey_trans left middle right first.1 second.1,
        sameKeys_trans lefts middles rights first.2 second.2⟩

end

/-- The last entry that was put under a value is found under it and under every other
value that is the same key. -/
theorem find?_ofEntries (entries : List (Value × α)) (key : Value) :
    (Ledger.ofEntries sameKey entries).find? key =
      (entries.reverse.find? fun entry => sameKey entry.1 key).map Prod.snd :=
  Ledger.find?_ofEntries sameKey_symm sameKey_trans entries key

example :
    (Ledger.ofEntries sameKey
      [(.integer 1, "integer"), (.text "1", "text"), (.flag true, "flag")]).toList =
      [(.integer 1, "flag"), (.text "1", "text")] := rfl

/-- A mapping has the keys that it is made of in their order, apart from those that are
the same as an earlier one. -/
theorem exists_ofKeys (keys : List Value) :
    ∃ kept, ofKeys keys = .mapping kept ∧ kept.Sublist keys ∧
      (kept.Pairwise fun earlier later => earlier.sameKey later = false) ∧
      ∀ key ∈ keys, key ∈ kept ∨ ∃ known ∈ kept, known.sameKey key = true := by
  have given : (keys.map fun key => (key, ())).map Prod.fst = keys := by
    rw [List.map_map]
    exact List.map_id keys
  have inOrder : (Ledger.ofEntries sameKey (keys.map fun key => (key, ()))).keys.Sublist
      ((keys.map fun key => (key, ())).map Prod.fst) :=
    Ledger.keys_ofEntries_sublist _
  rw [given] at inOrder
  refine ⟨_, rfl, inOrder, Ledger.distinct _, fun key member => ?_⟩
  rw [← given] at member
  exact Ledger.mem_keys_ofEntries member

end Value
end Readout
