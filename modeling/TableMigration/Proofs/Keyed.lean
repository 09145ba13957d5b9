import Mathlib.Data.List.Induction
import Mathlib.Data.List.Nodup
import TableMigration.Keyed

/-!
# Lists by key

A list put together by key has one element for each key, in order of first mention, and that is the
last element of the key (`ofList_eq`). Elements of other keys have no part in it (`filter_ofList`).
-/

namespace TableMigration.Keyed

/-! ### Distinct elements in order of first mention -/

section

variable {κ : Type} [DecidableEq κ]

theorem eraseDups_concat (l : List κ) (k : κ) :
    (l ++ [k]).eraseDups = if k ∈ l then l.eraseDups else l.eraseDups ++ [k] := by
  rw [List.eraseDups_append]
  by_cases h : k ∈ l
  · simp [List.removeAll, h]
  · simp [List.removeAll, h, List.eraseDups_cons]

theorem nodup_eraseDups (l : List κ) : l.eraseDups.Nodup := by
  induction l using List.reverseRecOn with
  | nil => simp
  | append_singleton l k ih =>
    rw [eraseDups_concat]
    split
    · exact ih
    · rename_i new
      refine List.nodup_append.mpr ⟨ih, List.nodup_singleton k, ?_⟩
      intro a old b fresh same
      rw [List.mem_singleton] at fresh
      subst same fresh
      exact new (List.mem_eraseDups.mp old)

end

/-! ### Putting elements -/

variable {α κ : Type} [DecidableEq κ] (key : α → κ)

/-- The last element of a key. -/
def last? (k : κ) (l : List α) : Option α :=
  (l.filter (key · = k)).getLast?

theorem last?_concat (k : κ) (l : List α) (a : α) :
    last? key k (l ++ [a]) = if key a = k then some a else last? key k l := by
  rw [last?, List.filter_append]
  by_cases h : key a = k
  · simp [h]
  · simp [h, last?]

theorem last?_eq_some {k : κ} {l : List α} {a : α} (h : last? key k l = some a) :
    a ∈ l ∧ key a = k := by
  have member := List.mem_of_getLast? h
  simpa using member

theorem last?_map {β : Type} (f : β → α) (k : κ) (l : List β) :
    last? key k (l.map f) = (last? (fun b => key (f b)) k l).map f := by
  rw [last?, List.filter_map, List.getLast?_map]
  rfl

theorem exists_last? {k : κ} {l : List α} (h : k ∈ l.map key) : ∃ a, last? key k l = some a := by
  obtain ⟨a, member, rfl⟩ := List.mem_map.mp h
  have kept : a ∈ l.filter (key · = key a) := by simpa using member
  exact ⟨_, List.getLast?_eq_some_getLast (List.ne_nil_of_mem kept)⟩

theorem map_key_put (a : α) (l : List α) :
    (put key a l).map key =
      if key a ∈ l.map key then l.map key else l.map key ++ [key a] := by
  induction l with
  | nil => rfl
  | cons b rest ih =>
    rw [put]
    by_cases here : key b = key a
    · rw [if_pos here, List.map_cons, List.map_cons, if_pos (by rw [here]; exact List.mem_cons_self),
        here]
    · rw [if_neg here, List.map_cons, ih, List.map_cons]
      by_cases later : key a ∈ rest.map key
      · rw [if_pos later, if_pos (List.mem_cons_of_mem _ later)]
      · rw [if_neg later, if_neg (by simp [Ne.symm here, later])]
        rfl

theorem nodup_put (a : α) {l : List α} (distinct : (l.map key).Nodup) :
    ((put key a l).map key).Nodup := by
  rw [map_key_put]
  split
  · exact distinct
  · rename_i new
    refine List.nodup_append.mpr ⟨distinct, List.nodup_singleton _, ?_⟩
    rintro k old _ fresh rfl
    rw [List.mem_singleton] at fresh
    exact new (fresh ▸ old)

/-- Putting an element changes what stands for its key, and adds the key if it is new. -/
theorem put_filterMap (a : α) {keys : List κ} (distinct : keys.Nodup) {before after : κ → Option α}
    (standing : ∀ k ∈ keys, ∃ b, before k = some b ∧ key b = k) (new : after (key a) = some a)
    (others : ∀ k, k ≠ key a → after k = before k) :
    put key a (keys.filterMap before) =
      (if key a ∈ keys then keys else keys ++ [key a]).filterMap after := by
  induction keys with
  | nil => simp [put, new]
  | cons k keys ih =>
    obtain ⟨b, found, same⟩ := standing k List.mem_cons_self
    obtain ⟨fresh, distinct⟩ := List.nodup_cons.mp distinct
    have rest := ih distinct fun k member => standing k (List.mem_cons_of_mem _ member)
    rw [List.filterMap_cons_some found, put]
    -- The element of the key is changed where it stands, and nowhere else.
    by_cases h : key b = key a
    · have here : k = key a := same.symm.trans h
      have unchanged : keys.filterMap after = keys.filterMap before := by
        refine List.filterMap_congr fun k' member => others k' ?_
        rintro rfl
        exact fresh (here ▸ member)
      rw [if_pos h, if_pos (here ▸ List.mem_cons_self), here, List.filterMap_cons_some new,
        unchanged]
    · have elsewhere : k ≠ key a := fun here => h (same.trans here)
      rw [if_neg h, rest]
      have kept : after k = some b := (others k elsewhere).trans found
      by_cases member : key a ∈ keys
      · rw [if_pos member, if_pos (List.mem_cons_of_mem _ member), List.filterMap_cons_some kept]
      · rw [if_neg member, if_neg (by simp [member, elsewhere.symm]), List.cons_append,
          List.filterMap_cons_some kept]

theorem ofList_concat (l : List α) (a : α) : ofList key (l ++ [a]) = put key a (ofList key l) := by
  rw [ofList, ofList, List.foldl_append]
  rfl

/-- A list put together by key holds the last element of each key, in order of first mention. -/
theorem ofList_eq (l : List α) :
    ofList key l = (l.map key).eraseDups.filterMap (last? key · l) := by
  -- Elements are put from the left, so the induction takes the last one off.
  induction l using List.reverseRecOn with
  | nil => rfl
  | append_singleton l a ih =>
    have standing : ∀ k ∈ (l.map key).eraseDups, ∃ b, last? key k l = some b ∧ key b = k := by
      intro k member
      obtain ⟨b, found⟩ := exists_last? key (List.mem_eraseDups.mp member)
      exact ⟨b, found, (last?_eq_some key found).2⟩
    have new : last? key (key a) (l ++ [a]) = some a := by rw [last?_concat, if_pos rfl]
    have others : ∀ k, k ≠ key a → last? key k (l ++ [a]) = last? key k l := fun k other => by
      rw [last?_concat, if_neg other.symm]
    rw [ofList_concat, ih, put_filterMap key a (nodup_eraseDups _) standing new others, List.map_append,
      List.map_singleton, eraseDups_concat]
    simp only [List.mem_eraseDups]

theorem ofList_map {β : Type} (f : β → α) (l : List β) :
    ofList key (l.map f) =
      (l.map fun b => key (f b)).eraseDups.filterMap fun k =>
        (last? (fun b => key (f b)) k l).map f := by
  rw [ofList_eq, List.map_map]
  exact List.filterMap_congr fun k _ => last?_map key f k l

theorem map_key_ofList (l : List α) : (ofList key l).map key = (l.map key).eraseDups := by
  rw [ofList_eq, List.map_filterMap]
  refine (List.filterMap_congr fun k member => ?_).trans List.filterMap_some
  obtain ⟨a, found⟩ := exists_last? key (List.mem_eraseDups.mp member)
  rw [found, Option.map_some, (last?_eq_some key found).2]

theorem mem_ofList {l : List α} {a : α} : a ∈ ofList key l ↔ last? key (key a) l = some a := by
  rw [ofList_eq, List.mem_filterMap]
  constructor
  · rintro ⟨k, -, found⟩
    rwa [(last?_eq_some key found).2]
  · intro found
    have member := (last?_eq_some key found).1
    exact ⟨key a, List.mem_eraseDups.mpr (List.mem_map_of_mem member), found⟩

theorem filter_put (p : κ → Bool) (a : α) (l : List α) :
    (put key a l).filter (fun b => p (key b)) =
      if p (key a) then put key a (l.filter fun b => p (key b))
      else l.filter fun b => p (key b) := by
  induction l with
  | nil => cases kept : p (key a) <;> simp [put, kept]
  | cons b rest ih =>
    rw [put]
    by_cases here : key b = key a
    · rw [if_pos here]
      cases kept : p (key a) <;> simp [put, here, kept]
    · rw [if_neg here, List.filter_cons, ih, List.filter_cons]
      cases kept : p (key a) <;> cases first : p (key b) <;> simp [put, here]

/-- The elements of some keys are put together without those of the others. -/
theorem filter_ofList (p : κ → Bool) (l : List α) :
    (ofList key l).filter (fun a => p (key a)) = ofList key (l.filter fun a => p (key a)) := by
  induction l using List.reverseRecOn with
  | nil => rfl
  | append_singleton l a ih =>
    rw [ofList_concat, filter_put, ih, List.filter_append]
    cases kept : p (key a)
    · simp [kept]
    · simp [kept, ofList_concat]

/-! ### Distinct keys -/

section

variable {l l' : List α} (distinct : (l.map key).Nodup)
include distinct

theorem find?_eq_some_iff {k : κ} {a : α} :
    l.find? (key · == k) = some a ↔ a ∈ l ∧ key a = k := by
  constructor
  · intro found
    exact ⟨List.mem_of_find?_eq_some found, by simpa using List.find?_some found⟩
  · rintro ⟨inside, here⟩
    cases found : l.find? (key · == k) with
    | none => simpa [here] using List.find?_eq_none.mp found a inside
    | some b =>
      have same : key b = k := by simpa using List.find?_some found
      rw [List.inj_on_of_nodup_map distinct (List.mem_of_find?_eq_some found) inside
        (same.trans here.symm)]

theorem exists_mem_find?_iff {k : κ} {P : α → Prop} :
    (∃ a ∈ l.find? (key · == k), P a) ↔ ∃ a ∈ l, key a = k ∧ P a := by
  constructor
  · rintro ⟨a, found, holds⟩
    obtain ⟨inside, here⟩ := (find?_eq_some_iff key distinct).mp found
    exact ⟨a, inside, here, holds⟩
  · rintro ⟨a, inside, here, holds⟩
    exact ⟨a, (find?_eq_some_iff key distinct).mpr ⟨inside, here⟩, holds⟩

theorem last?_eq_some_iff {k : κ} {a : α} : last? key k l = some a ↔ a ∈ l ∧ key a = k := by
  refine ⟨last?_eq_some key, ?_⟩
  rintro ⟨inside, rfl⟩
  obtain ⟨b, found⟩ := exists_last? key (List.mem_map_of_mem inside)
  obtain ⟨inside', same⟩ := last?_eq_some key found
  rw [found, List.inj_on_of_nodup_map distinct inside' inside same]

theorem find?_perm (same : l.Perm l') (k : κ) :
    l.find? (key · == k) = l'.find? (key · == k) := by
  have distinct' : (l'.map key).Nodup := (same.map key).nodup_iff.mp distinct
  refine Option.ext fun a => ?_
  rw [find?_eq_some_iff key distinct, find?_eq_some_iff key distinct', same.mem_iff]

theorem last?_perm (same : l.Perm l') (k : κ) : last? key k l = last? key k l' := by
  have distinct' : (l'.map key).Nodup := (same.map key).nodup_iff.mp distinct
  refine Option.ext fun a => ?_
  rw [last?_eq_some_iff key distinct, last?_eq_some_iff key distinct', same.mem_iff]

theorem exists_filter_ne {a : α} (member : a ∈ l) :
    ∃ before after, l = before ++ a :: after ∧ l.filter (key · != key a) = before ++ after := by
  obtain ⟨before, after, rfl⟩ := List.append_of_mem member
  refine ⟨before, after, rfl, ?_⟩
  rw [List.map_append, List.map_cons, List.nodup_middle, List.nodup_cons,
    ← List.map_append] at distinct
  have others : (before ++ after).filter (key · != key a) = before ++ after := by
    refine List.filter_eq_self.mpr fun b inside => ?_
    have apart : key b ≠ key a := fun same => distinct.1 (same ▸ List.mem_map_of_mem inside)
    simpa using apart
  rw [List.filter_append, List.filter_cons_of_neg (by simp), ← List.filter_append, others]

end

/-! ### Changing an element -/

variable {key} {k : κ} {change : α → α}

theorem map_updateFirst {β : Type} {g : α → β} {l : List α}
    (keeps : ∀ a ∈ l, key a = k → g (change a) = g a) :
    (updateFirst key k change l).map g = l.map g := by
  induction l with
  | nil => rfl
  | cons a rest ih =>
    rw [updateFirst]
    split
    · rename_i here
      rw [List.map_cons, List.map_cons, keeps a List.mem_cons_self here]
    · rw [List.map_cons, List.map_cons, ih fun b member => keeps b (List.mem_cons_of_mem _ member)]

theorem map_key_updateFirst (keeps : ∀ a, key (change a) = key a) (l : List α) :
    (updateFirst key k change l).map key = l.map key :=
  map_updateFirst fun a _ _ => keeps a

theorem mem_updateFirst {l : List α} {a : α} (h : a ∈ updateFirst key k change l) :
    a ∈ l ∨ ∃ b ∈ l, a = change b := by
  induction l with
  | nil => cases h
  | cons b rest ih =>
    rw [updateFirst] at h
    split at h <;> rcases List.mem_cons.mp h with rfl | later
    · exact .inr ⟨b, List.mem_cons_self, rfl⟩
    · exact .inl (List.mem_cons_of_mem _ later)
    · exact .inl List.mem_cons_self
    · rcases ih later with old | ⟨c, member, same⟩
      · exact .inl (List.mem_cons_of_mem _ old)
      · exact .inr ⟨c, List.mem_cons_of_mem _ member, same⟩

theorem updateFirst_of_absent {l : List α} (absent : ∀ a ∈ l, key a ≠ k) :
    updateFirst key k change l = l := by
  induction l with
  | nil => rfl
  | cons a rest ih =>
    obtain ⟨other, absent⟩ := List.forall_mem_cons.mp absent
    rw [updateFirst, if_neg other, ih absent]

theorem filter_updateFirst (p : κ → Bool) (keeps : ∀ a, key (change a) = key a) (l : List α) :
    (updateFirst key k change l).filter (fun a => p (key a)) =
      updateFirst key k change (l.filter fun a => p (key a)) := by
  induction l with
  | nil => rfl
  | cons a rest ih =>
    rw [updateFirst]
    by_cases here : key a = k
    · rw [if_pos here, List.filter_cons, List.filter_cons, keeps, here]
      split
      · rw [updateFirst, if_pos here]
      · rename_i dropped
        -- The key is dropped, so nothing is left to change.
        refine (updateFirst_of_absent fun b member same => dropped ?_).symm
        have kept := (List.mem_filter.mp member).2
        rwa [same] at kept
    · rw [if_neg here, List.filter_cons, List.filter_cons]
      split
      · rw [updateFirst, if_neg here, ih]
      · exact ih

theorem filter_updateFirst_other {other : κ} (different : k ≠ other)
    (keeps : ∀ a, key (change a) = key a) (l : List α) :
    (updateFirst key k change l).filter (key · = other) = l.filter (key · = other) := by
  rw [filter_updateFirst (fun k => decide (k = other)) keeps]
  refine updateFirst_of_absent fun a member same => different ?_
  rw [← same]
  simpa using (List.mem_filter.mp member).2

theorem updateFirst_filter {p : α → Bool} (kept : ∀ a, key a = k → p a = true)
    (same : ∀ a, key a = k → p (change a) = true) (l : List α) :
    updateFirst key k change (l.filter p) = (updateFirst key k change l).filter p := by
  induction l with
  | nil => rfl
  | cons a rest ih =>
    by_cases here : key a = k
    · rw [List.filter_cons_of_pos (kept a here), updateFirst, updateFirst, if_pos here, if_pos here,
        List.filter_cons_of_pos (same a here)]
    · rw [updateFirst, if_neg here, List.filter_cons, List.filter_cons]
      split
      · rw [updateFirst, if_neg here, ih]
      · exact ih

theorem updateFirst_comm {other : κ} {change' : α → α} (different : k ≠ other)
    (keeps : ∀ a, key (change a) = key a) (keeps' : ∀ a, key (change' a) = key a) (l : List α) :
    updateFirst key k change (updateFirst key other change' l) =
      updateFirst key other change' (updateFirst key k change l) := by
  induction l with
  | nil => rfl
  | cons a rest ih =>
    by_cases here : key a = k
    · have elsewhere : key a ≠ other := fun there => different (here.symm.trans there)
      simp [updateFirst, here, keeps, different]
    · by_cases there : key a = other
      · simp [updateFirst, there, keeps', different.symm]
      · simp [updateFirst, here, there, ih]

theorem updateFirst_updateFirst (keeps : ∀ a, key (change a) = key a)
    (again : ∀ a, change (change a) = change a) (l : List α) :
    updateFirst key k change (updateFirst key k change l) = updateFirst key k change l := by
  induction l with
  | nil => rfl
  | cons a rest ih =>
    by_cases here : key a = k <;> simp [updateFirst, here, keeps, again, ih]

/-- Where keys are distinct, the first element of a key is the only one. -/
theorem updateFirst_eq_map {l : List α} (distinct : (l.map key).Nodup) :
    updateFirst key k change l = l.map fun a => if key a = k then change a else a := by
  induction l with
  | nil => rfl
  | cons a rest ih =>
    obtain ⟨new, distinct⟩ := List.nodup_cons.mp distinct
    rw [updateFirst, List.map_cons]
    split
    · rename_i here
      -- No element behind the first one has its key.
      have unchanged : rest.map (fun a => if key a = k then change a else a) = rest := by
        refine (List.map_congr_left fun b member => if_neg ?_).trans (List.map_id rest)
        intro same
        exact new (here.trans same.symm ▸ List.mem_map_of_mem member)
      rw [unchanged]
    · rw [ih distinct]

end TableMigration.Keyed
