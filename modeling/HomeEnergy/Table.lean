/-!
Tables: finite maps kept as lists of entries in strictly increasing key order.

The order makes the representation canonical: two tables that answer every look-up alike are equal
(`Table.ext_get?`). Small lemmas say what `put` and `erase` do to a look-up.
-/

namespace HomeEnergy

universe u v

/-! Operations on entry lists, also used where the list stands alone. -/

namespace Entries

variable {κ : Type u} {α : Type v}

def get? [DecidableEq κ] (k : κ) : List (κ × α) → Option α
  | [] => none
  | (k', a) :: rest => if k = k' then some a else get? k rest

/-- Stores a value at its place in the order; a value already under the key is replaced. -/
def put [LT κ] [DecidableLT κ] [DecidableEq κ] (k : κ) (a : α) : List (κ × α) → List (κ × α)
  | [] => [(k, a)]
  | (k', a') :: rest =>
    if k = k' then (k, a) :: rest
    else if k < k' then (k, a) :: (k', a') :: rest
    else (k', a') :: put k a rest

/-- Stores a value in place of the one under the key, or at the end if there is none. -/
def append [DecidableEq κ] (k : κ) (a : α) : List (κ × α) → List (κ × α)
  | [] => [(k, a)]
  | (k', a') :: rest => if k = k' then (k, a) :: rest else (k', a') :: append k a rest

def erase [DecidableEq κ] (k : κ) (entries : List (κ × α)) : List (κ × α) :=
  entries.filter (fun e => e.1 ≠ k)

/-- Keys grow strictly from one entry to the next. -/
def Increasing [LT κ] (entries : List (κ × α)) : Prop :=
  entries.Pairwise (fun x y => x.1 < y.1)

instance [LT κ] [DecidableLT κ] (entries : List (κ × α)) : Decidable (Increasing entries) :=
  inferInstanceAs (Decidable (entries.Pairwise _))

section Order

variable [LT κ] [DecidableLT κ] [DecidableEq κ]

theorem get?_put_self (k : κ) (a : α) (l : List (κ × α)) : get? k (put k a l) = some a := by
  induction l with
  | nil => simp [put, get?]
  | cons e rest ih =>
    obtain ⟨k', a'⟩ := e
    simp only [put]
    split
    · simp [get?]
    · split
      · simp [get?]
      · rename_i h _
        simp [get?, h, ih]

theorem get?_put_of_ne {k j : κ} (h : j ≠ k) (a : α) (l : List (κ × α)) :
    get? j (put k a l) = get? j l := by
  induction l with
  | nil => simp [put, get?, h]
  | cons e rest ih =>
    obtain ⟨k', a'⟩ := e
    simp only [put]
    split
    · rename_i hk
      subst hk
      simp [get?, h]
    · split
      · simp [get?, h]
      · simp [get?, ih]

omit [LT κ] [DecidableLT κ] in
theorem get?_append (k j : κ) (a : α) (l : List (κ × α)) :
    get? j (append k a l) = if j = k then some a else get? j l := by
  induction l with
  | nil => rfl
  | cons e rest ih =>
    obtain ⟨k', a'⟩ := e
    by_cases hk : k = k'
    · subst hk
      by_cases hj : j = k <;> simp [append, get?, hj]
    · by_cases hj : j = k'
      · subst hj
        simp [append, get?, hk, Ne.symm hk]
      · simp [append, get?, hk, hj, ih]

omit [LT κ] [DecidableLT κ] in
theorem get?_erase (k j : κ) (l : List (κ × α)) :
    get? j (erase k l) = if j = k then none else get? j l := by
  induction l with
  | nil => simp [erase, get?]
  | cons e rest ih =>
    obtain ⟨k', a'⟩ := e
    by_cases hk : k' = k
    · subst hk
      have herase : erase k' ((k', a') :: rest) = erase k' rest := by simp [erase]
      rw [herase, ih]
      by_cases hj : j = k' <;> simp [get?, hj]
    · have herase : erase k ((k', a') :: rest) = (k', a') :: erase k rest := by simp [erase, hk]
      rw [herase, get?, ih, get?]
      by_cases hj : j = k'
      · subst hj
        simp [hk]
      · simp [hj]

omit [LT κ] [DecidableLT κ] in
theorem get?_map {β : Type v} (f : α → β) (k : κ) (l : List (κ × α)) :
    get? k (l.map fun e => (e.1, f e.2)) = (get? k l).map f := by
  induction l with
  | nil => rfl
  | cons e rest ih =>
    rw [List.map_cons, get?, get?, ih]
    split <;> rfl

theorem mem_put {k : κ} {a : α} {l : List (κ × α)} {e : κ × α} (h : e ∈ put k a l) :
    e = (k, a) ∨ e ∈ l := by
  induction l with
  | nil => simpa [put] using h
  | cons d rest ih =>
    obtain ⟨k', a'⟩ := d
    simp only [put] at h
    split at h
    · rcases List.mem_cons.1 h with h | h
      · exact .inl h
      · exact .inr (List.mem_cons_of_mem _ h)
    · split at h
      · rcases List.mem_cons.1 h with h | h
        · exact .inl h
        · exact .inr h
      · rcases List.mem_cons.1 h with h | h
        · exact .inr (h ▸ List.mem_cons_self)
        · rcases ih h with h | h
          · exact .inl h
          · exact .inr (List.mem_cons_of_mem _ h)

theorem mem_foldl_put {l m : List (κ × α)} {e : κ × α}
    (h : e ∈ m.foldl (fun o e => put e.1 e.2 o) l) : e ∈ l ∨ e ∈ m := by
  induction m generalizing l with
  | nil => exact .inl h
  | cons d rest ih =>
    rcases ih h with h | h
    · rcases mem_put h with rfl | h
      · exact .inr List.mem_cons_self
      · exact .inl h
    · exact .inr (List.mem_cons_of_mem d h)

variable [LE κ] [Std.IsLinearOrder κ] [Std.LawfulOrderLT κ]

theorem Increasing.put {l : List (κ × α)} (h : Increasing l) (k : κ) (a : α) :
    Increasing (put k a l) := by
  induction l with
  | nil => simp [Entries.put, Increasing]
  | cons e rest ih =>
    obtain ⟨k', a'⟩ := e
    have hrest : Increasing rest := (List.pairwise_cons.1 h).2
    have hhead : ∀ d ∈ rest, k' < d.1 := (List.pairwise_cons.1 h).1
    simp only [Entries.put]
    split
    · rename_i hk
      subst hk
      exact List.pairwise_cons.2 ⟨hhead, hrest⟩
    · rename_i hk
      split
      · rename_i hlt
        refine List.pairwise_cons.2 ⟨?_, h⟩
        intro d hd
        rcases List.mem_cons.1 hd with hd | hd
        · exact hd ▸ hlt
        · exact Std.lt_trans hlt (hhead d hd)
      · rename_i hlt
        have hgt : k' < k := by
          rcases Std.lt_trichotomy k k' with h | h | h
          · exact absurd h hlt
          · exact absurd h hk
          · exact h
        refine List.pairwise_cons.2 ⟨?_, ih hrest⟩
        intro d hd
        rcases mem_put hd with hd | hd
        · exact hd ▸ hgt
        · exact hhead d hd

theorem Increasing.foldl_put {l : List (κ × α)} (h : Increasing l) (m : List (κ × α)) :
    Increasing (m.foldl (fun o e => Entries.put e.1 e.2 o) l) := by
  induction m generalizing l with
  | nil => exact h
  | cons e rest ih => exact ih (h.put e.1 e.2)

theorem put_of_forall_lt {k : κ} {l : List (κ × α)} (h : ∀ e ∈ l, e.1 < k) (a : α) :
    put k a l = l ++ [(k, a)] := by
  induction l with
  | nil => rfl
  | cons e rest ih =>
    obtain ⟨k', a'⟩ := e
    have hlt : k' < k := h (k', a') List.mem_cons_self
    have hne : k ≠ k' := fun he => Std.lt_irrefl (he ▸ hlt)
    have hnlt : ¬ k < k' := fun hgt => Std.lt_irrefl (Std.lt_trans hlt hgt)
    simp only [put, hne, hnlt, if_false, List.cons_append]
    rw [ih fun e he => h e (List.mem_cons_of_mem _ he)]

theorem foldl_put_append {l m : List (κ × α)} (h : Increasing (l ++ m)) :
    m.foldl (fun o e => put e.1 e.2 o) l = l ++ m := by
  induction m generalizing l with
  | nil => exact (List.append_nil l).symm
  | cons e rest ih =>
    have hlt : ∀ d ∈ l, d.1 < e.1 := fun d hd =>
      (List.pairwise_append.1 h).2.2 d hd e List.mem_cons_self
    rw [List.foldl_cons, put_of_forall_lt hlt, ih]
    · exact List.append_assoc l [e] rest
    · rwa [List.append_assoc]

/-- Entries put one after another in their order make the same list. -/
theorem foldl_put_eq {l : List (κ × α)} (h : Increasing l) :
    l.foldl (fun o e => put e.1 e.2 o) [] = l :=
  foldl_put_append h

omit [DecidableLT κ] [LE κ] [Std.IsLinearOrder κ] [Std.LawfulOrderLT κ] in
theorem Increasing.erase {l : List (κ × α)} (h : Increasing l) (k : κ) :
    Increasing (erase k l) :=
  List.Pairwise.filter _ h

omit [DecidableEq κ] [DecidableLT κ] [LE κ] [Std.IsLinearOrder κ] [Std.LawfulOrderLT κ] in
theorem Increasing.map {β : Type v} {l : List (κ × α)} (h : Increasing l) (f : α → β) :
    Increasing (l.map fun e => (e.1, f e.2)) :=
  List.pairwise_map.2 h

omit [DecidableLT κ] [Std.IsLinearOrder κ] in
theorem get?_eq_none_of_forall_lt {k : κ} {l : List (κ × α)} (h : ∀ e ∈ l, k < e.1) :
    get? k l = none := by
  induction l with
  | nil => rfl
  | cons e rest ih =>
    obtain ⟨k', a'⟩ := e
    have hk : k < k' := h (k', a') List.mem_cons_self
    have hne : k ≠ k' := fun he => Std.lt_irrefl (he ▸ hk)
    simp only [get?, hne, if_false]
    exact ih (fun e he => h e (List.mem_cons_of_mem _ he))

omit [LT κ] [DecidableLT κ] [LE κ] [Std.IsLinearOrder κ] [Std.LawfulOrderLT κ] in
theorem mem_keys_iff {k : κ} {l : List (κ × α)} :
    k ∈ l.map Prod.fst ↔ (get? k l).isSome = true := by
  induction l with
  | nil => simp [get?]
  | cons e rest ih =>
    obtain ⟨k', a'⟩ := e
    by_cases hk : k = k'
    · simp [get?, hk]
    · simp [get?, hk, ih]

omit [DecidableLT κ] [DecidableEq κ] [Std.IsLinearOrder κ] in
theorem Increasing.nodup_keys {l : List (κ × α)} (h : Increasing l) : (l.map Prod.fst).Nodup := by
  have hne {x y : κ × α} (hlt : x.1 < y.1) : x.1 ≠ y.1 := fun he => Std.lt_irrefl (he ▸ hlt)
  exact List.pairwise_map.2 (List.Pairwise.imp hne h)

omit [DecidableLT κ] in
/-- Entry lists in increasing order are determined by their look-ups. -/
theorem eq_of_get?_eq {l m : List (κ × α)} (hl : Increasing l) (hm : Increasing m)
    (h : ∀ k, get? k l = get? k m) : l = m := by
  induction l generalizing m with
  | nil =>
    cases m with
    | nil => rfl
    | cons e rest =>
      have := h e.1
      simp [get?] at this
  | cons e rest ih =>
    obtain ⟨k, a⟩ := e
    obtain ⟨hhead, hrest⟩ := List.pairwise_cons.1 hl
    cases m with
    | nil =>
      have := h k
      simp [get?] at this
    | cons d rest' =>
      obtain ⟨k', a'⟩ := d
      obtain ⟨hhead', hrest'⟩ := List.pairwise_cons.1 hm
      have hkk : k = k' := by
        rcases Std.lt_trichotomy k k' with hlt | heq | hgt
        · have hnone : get? k ((k', a') :: rest') = none := by
            refine get?_eq_none_of_forall_lt ?_
            intro e he
            rcases List.mem_cons.1 he with he | he
            · exact he ▸ hlt
            · exact Std.lt_trans hlt (hhead' e he)
          have := h k
          rw [hnone] at this
          simp [get?] at this
        · exact heq
        · have hnone : get? k' ((k, a) :: rest) = none := by
            refine get?_eq_none_of_forall_lt ?_
            intro e he
            rcases List.mem_cons.1 he with he | he
            · exact he ▸ hgt
            · exact Std.lt_trans hgt (hhead e he)
          have := h k'
          rw [hnone] at this
          simp [get?] at this
      subst hkk
      have haa : a = a' := by
        have := h k
        simpa [get?] using this
      subst haa
      have htail : ∀ j, get? j rest = get? j rest' := by
        intro j
        by_cases hj : j = k
        · subst hj
          rw [get?_eq_none_of_forall_lt hhead, get?_eq_none_of_forall_lt hhead']
        · have := h j
          simpa [get?, hj] using this
      rw [ih hrest hrest' htail]

/-- Entry lists in increasing order keep one entry for each key, so putting one in adds it to a
count and takes out the one it replaces. -/
theorem countP_put (p : α → Bool) (k : κ) (a : α) {l : List (κ × α)}
    (h : Increasing l) :
    (put k a l).countP (fun e => p e.2) + (get? k l).toList.countP p =
      l.countP (fun e => p e.2) + [a].countP p := by
  induction l with
  | nil => simp [put, get?]
  | cons e rest ih =>
    obtain ⟨k', a'⟩ := e
    obtain ⟨hhead, hrest⟩ := List.pairwise_cons.1 h
    simp only [put]
    split
    · next hk =>
      subst hk
      simp only [get?, if_true, Option.toList_some, List.countP_cons, List.countP_nil]
      omega
    · next hk =>
      split
      · next hlt =>
        have hnone : get? k ((k', a') :: rest) = none := by
          refine get?_eq_none_of_forall_lt ?_
          intro d hd
          rcases List.mem_cons.1 hd with hd | hd
          · exact hd ▸ hlt
          · exact Std.lt_trans hlt (hhead d hd)
        rw [hnone]
        simp only [Option.toList_none, List.countP_cons, List.countP_nil]
        omega
      · have := ih hrest
        simp only [get?, hk, if_false, List.countP_cons] at this ⊢
        omega

omit [DecidableLT κ] [Std.IsLinearOrder κ] in
theorem countP_erase (p : α → Bool) (k : κ) {l : List (κ × α)} (h : Increasing l) :
    (erase k l).countP (fun e => p e.2) + (get? k l).toList.countP p =
      l.countP (fun e => p e.2) := by
  induction l with
  | nil => simp [erase, get?]
  | cons e rest ih =>
    obtain ⟨k', a'⟩ := e
    obtain ⟨hhead, hrest⟩ := List.pairwise_cons.1 h
    by_cases hk : k' = k
    · subst hk
      have herase : erase k' ((k', a') :: rest) = rest := by
        have hall : ∀ d ∈ rest, d.1 ≠ k' := fun d hd he => Std.lt_irrefl (he ▸ hhead d hd)
        simpa [erase] using hall
      simp [herase, get?, List.countP_cons]
    · have herase : erase k ((k', a') :: rest) = (k', a') :: erase k rest := by simp [erase, hk]
      have := ih hrest
      simp only [herase, get?, Ne.symm hk, if_false, List.countP_cons] at this ⊢
      omega

end Order

end Entries

/-- A finite map with its entries in increasing key order. -/
@[ext]
structure Table (κ : Type u) (α : Type v) [LT κ] where
  entries : List (κ × α)
  increasing : Entries.Increasing entries

namespace Table

variable {κ : Type u} {α : Type v} [LT κ]

instance [DecidableEq κ] [DecidableEq α] : DecidableEq (Table κ α) := fun s t =>
  decidable_of_iff (s.entries = t.entries) Table.ext_iff.symm

def empty : Table κ α := ⟨[], List.Pairwise.nil⟩

instance : Inhabited (Table κ α) := ⟨empty⟩

variable [DecidableEq κ]

def get? (t : Table κ α) (k : κ) : Option α := Entries.get? k t.entries

def contains (t : Table κ α) (k : κ) : Bool := (t.get? k).isSome

def erase (t : Table κ α) (k : κ) : Table κ α :=
  ⟨Entries.erase k t.entries, t.increasing.erase k⟩

omit [DecidableEq κ] in
def keys (t : Table κ α) : List κ := t.entries.map Prod.fst

omit [DecidableEq κ] in
def values (t : Table κ α) : List α := t.entries.map Prod.snd

omit [DecidableEq κ] in
def size (t : Table κ α) : Nat := t.entries.length

omit [DecidableEq κ] in
def map {β : Type v} (f : α → β) (t : Table κ α) : Table κ β :=
  ⟨t.entries.map fun e => (e.1, f e.2), t.increasing.map f⟩

variable [DecidableLT κ] [LE κ] [Std.IsLinearOrder κ] [Std.LawfulOrderLT κ]

def put (t : Table κ α) (k : κ) (a : α) : Table κ α :=
  ⟨Entries.put k a t.entries, t.increasing.put k a⟩

/-- The table that holds the given pairs; of two pairs with one key the later counts. -/
def ofList (pairs : List (κ × α)) : Table κ α :=
  pairs.foldl (fun t p => t.put p.1 p.2) empty

omit [DecidableLT κ] [LE κ] [Std.IsLinearOrder κ] [Std.LawfulOrderLT κ] in
@[simp] theorem get?_empty (k : κ) : (empty : Table κ α).get? k = none := rfl

@[simp] theorem get?_put_self (t : Table κ α) (k : κ) (a : α) : (t.put k a).get? k = some a :=
  Entries.get?_put_self k a t.entries

theorem get?_put_of_ne (t : Table κ α) {k j : κ} (h : j ≠ k) (a : α) :
    (t.put k a).get? j = t.get? j :=
  Entries.get?_put_of_ne h a t.entries

theorem get?_put (t : Table κ α) (k j : κ) (a : α) :
    (t.put k a).get? j = if j = k then some a else t.get? j := by
  by_cases h : j = k
  · subst h
    simp
  · simp [h, get?_put_of_ne t h]

omit [DecidableLT κ] [LE κ] [Std.IsLinearOrder κ] [Std.LawfulOrderLT κ] in
theorem get?_erase (t : Table κ α) (k j : κ) :
    (t.erase k).get? j = if j = k then none else t.get? j :=
  Entries.get?_erase k j t.entries

omit [DecidableLT κ] in
theorem ext_get? {s t : Table κ α} (h : ∀ k, s.get? k = t.get? k) : s = t :=
  Table.ext (Entries.eq_of_get?_eq s.increasing t.increasing h)

omit [DecidableLT κ] [LE κ] [Std.IsLinearOrder κ] [Std.LawfulOrderLT κ] in
theorem get?_map {β : Type v} (f : α → β) (t : Table κ α) (k : κ) :
    (t.map f).get? k = (t.get? k).map f :=
  Entries.get?_map f k t.entries

theorem map_put {β : Type v} (f : α → β) (t : Table κ α) (k : κ) (a : α) :
    (t.put k a).map f = (t.map f).put k (f a) := by
  refine ext_get? fun j => ?_
  rw [get?_map, get?_put, get?_put, get?_map]
  split <;> rfl

omit [DecidableLT κ] in
theorem map_erase {β : Type v} (f : α → β) (t : Table κ α) (k : κ) :
    (t.erase k).map f = (t.map f).erase k := by
  refine ext_get? fun j => ?_
  rw [get?_map, get?_erase, get?_erase, get?_map]
  split <;> rfl

theorem put_comm (t : Table κ α) {k j : κ} (h : k ≠ j) (a b : α) :
    (t.put k a).put j b = (t.put j b).put k a := by
  refine ext_get? fun i => ?_
  rw [get?_put, get?_put, get?_put, get?_put]
  split
  · next hj => rw [if_neg fun hk => h (hk.symm.trans hj)]
  · rfl

theorem put_of_get? {t : Table κ α} {k : κ} {a : α} (h : t.get? k = some a) : t.put k a = t := by
  refine ext_get? fun j => ?_
  rw [get?_put]
  split
  · next hj => rw [hj, h]
  · rfl

omit [DecidableLT κ] in
theorem erase_of_get? {t : Table κ α} {k : κ} (h : t.get? k = none) : t.erase k = t := by
  refine ext_get? fun j => ?_
  rw [get?_erase]
  split
  · next hj => rw [hj, h]
  · rfl

omit [DecidableLT κ] [LE κ] [Std.IsLinearOrder κ] [Std.LawfulOrderLT κ] in
theorem mem_keys_iff (t : Table κ α) (k : κ) : k ∈ t.keys ↔ (t.get? k).isSome = true :=
  Entries.mem_keys_iff

omit [DecidableEq κ] [DecidableLT κ] [Std.IsLinearOrder κ] in
theorem nodup_keys (t : Table κ α) : t.keys.Nodup := t.increasing.nodup_keys

/-- Of the values that satisfy a test, putting one in adds it and takes out the one it replaces. -/
theorem countP_values_put (p : α → Bool) (t : Table κ α) (k : κ) (a : α) :
    (t.put k a).values.countP p + (t.get? k).toList.countP p =
      t.values.countP p + [a].countP p := by
  rw [values, values, List.countP_map, List.countP_map]
  exact Entries.countP_put p k a t.increasing

omit [DecidableLT κ] [Std.IsLinearOrder κ] in
theorem countP_values_erase (p : α → Bool) (t : Table κ α) (k : κ) :
    (t.erase k).values.countP p + (t.get? k).toList.countP p = t.values.countP p := by
  rw [values, values, List.countP_map, List.countP_map]
  exact Entries.countP_erase p k t.increasing

end Table

end HomeEnergy
