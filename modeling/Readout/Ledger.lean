/-!
# Ledgers

A ledger keeps one entry per key, in the order in which the keys first came up.
Which keys are the same is for the user of the ledger to say.
-/

namespace Readout

/-- Entries under keys, oldest key first, no two of which are the same. -/
structure Ledger {κ : Type} (same : κ → κ → Bool) (α : Type) where
  /-- The entries with their keys, in order. -/
  toList : List (κ × α)
  /-- No key is the same as an earlier one. -/
  distinct : (toList.map Prod.fst).Pairwise fun earlier later =>
    same earlier later = false

namespace Ledger

section Entries

variable (same : κ → κ → Bool) (key : κ) (change : Option α → α)

/-- Change the entry of a key in a list of entries, in its place; the entry of a new
key goes last. -/
def amend : List (κ × α) → List (κ × α)
  | [] => [(key, change none)]
  | (other, entry) :: rest =>
      if same other key then (other, change (some entry)) :: rest
      else (other, entry) :: amend rest

end Entries

section Amend

variable {same : κ → κ → Bool} {key other : κ} (change : Option α → α)

/-- The entry of the changed key is changed where it stands. -/
theorem amend_cons_of_same
    (entry : α)
    (rest : List (κ × α))
    (isSame : same other key = true) :
    amend same key change ((other, entry) :: rest) =
      (other, change (some entry)) :: rest := by
  rw [amend, if_pos isSame]

/-- The entry of another key stays where it stands. -/
theorem amend_cons_of_not_same
    (entry : α)
    (rest : List (κ × α))
    (notSame : same other key = false) :
    amend same key change ((other, entry) :: rest) =
      (other, entry) :: amend same key change rest := by
  rw [amend, notSame, if_neg Bool.false_ne_true]

variable (same key)

/-- A change keeps the earlier keys and adds at most the changed one. -/
theorem keys_amend (entries : List (κ × α)) :
    (amend same key change entries).map Prod.fst =
      if (entries.map Prod.fst).any (same · key) then entries.map Prod.fst
      else entries.map Prod.fst ++ [key] := by
  induction entries with
  | nil => rfl
  | cons head rest inductionHypothesis =>
      obtain ⟨other, entry⟩ := head
      cases isSame : same other key with
      | true =>
          rw [amend_cons_of_same change entry rest isSame]
          simp [isSame]
      | false =>
          rw [amend_cons_of_not_same change entry rest isSame, List.map_cons,
            inductionHypothesis, List.map_cons, List.any_cons, isSame, Bool.false_or]
          by_cases known : (rest.map Prod.fst).any (same · key) = true
          · rw [if_pos known, if_pos known]
          · rw [if_neg known, if_neg known, List.cons_append]

variable {entries : List (κ × α)}

/-- Keys that are different stay different. -/
theorem distinct_amend
    (distinct : (entries.map Prod.fst).Pairwise fun earlier later =>
      same earlier later = false) :
    ((amend same key change entries).map Prod.fst).Pairwise fun earlier later =>
      same earlier later = false := by
  rw [keys_amend]
  split
  · exact distinct
  · next isNew =>
      rw [Bool.not_eq_true, List.any_eq_false] at isNew
      rw [List.pairwise_append]
      refine ⟨distinct, List.pairwise_singleton _ _, ?_⟩
      intro earlier member later isLast
      rw [List.mem_singleton.mp isLast]
      exact Bool.eq_false_iff.mpr (isNew earlier member)

end Amend

variable {same : κ → κ → Bool}

/-- The ledger without entries. -/
def empty : Ledger same α :=
  ⟨[], .nil⟩

/-- What a function makes of the entries, in order. -/
def map (ledger : Ledger same α) (function : κ × α → β) : List β :=
  ledger.toList.map function

/-- The keys of a ledger, oldest first. -/
def keys (ledger : Ledger same α) : List κ :=
  ledger.map Prod.fst

/-- The entry of a key. -/
def find? (ledger : Ledger same α) (key : κ) : Option α :=
  (ledger.toList.find? fun entry => same entry.1 key).map Prod.snd

/-- Change the entry of a key, which keeps its place; a new key goes last. -/
def update (ledger : Ledger same α) (key : κ) (change : Option α → α) :
    Ledger same α :=
  ⟨amend same key change ledger.toList, distinct_amend same key change ledger.distinct⟩

@[simp] theorem toList_update
    (ledger : Ledger same α)
    (key : κ)
    (change : Option α → α) :
    (ledger.update key change).toList = amend same key change ledger.toList := rfl

/-- Put an entry under a key in place of any earlier one. -/
def put (ledger : Ledger same α) (key : κ) (entry : α) : Ledger same α :=
  ledger.update key fun _ => entry

variable (same) in
/-- The ledger that results from putting entries one after the other. -/
def ofEntries (entries : List (κ × α)) : Ledger same α :=
  entries.foldl (fun ledger entry => ledger.put entry.1 entry.2) empty

/-- A change keeps the earlier keys and adds at most the changed one. -/
theorem keys_update (ledger : Ledger same α) (key : κ) (change : Option α → α) :
    (ledger.update key change).keys =
      if ledger.keys.any (same · key) then ledger.keys else ledger.keys ++ [key] :=
  keys_amend same key change ledger.toList

/-- The entries in another form under other keys, if different keys stay different. -/
def rekey
    {other : ι → ι → Bool}
    (rename : κ → ι)
    (convert : α → β)
    (apart : ∀ left right, same left right = false →
      other (rename left) (rename right) = false)
    (ledger : Ledger same α) :
    Ledger other β where
  toList := ledger.map fun entry => (rename entry.1, convert entry.2)
  distinct := by
    have renamed : (ledger.map fun entry => (rename entry.1, convert entry.2)).map
        Prod.fst = ledger.keys.map rename := by
      rw [map, keys, map, List.map_map, List.map_map]
      rfl
    rw [renamed, List.pairwise_map]
    exact ledger.distinct.imp fun different => apart _ _ different

end Ledger
end Readout
