import ChatDesktop.Storage.Invariant

namespace ChatDesktop.Storage

open Library LocalStorage

/-- Every length and every number of the directory fits the field it is written to. -/
structure Storable (roots : Roots) : Prop where
  size : roots.size < 2 ^ 32
  entry : ∀ name id, roots.find? name = some id → name.length < 2 ^ 32 ∧ id < 2 ^ 64

section

variable {roots : Roots}

lemma parseEntries_cons {n : ℕ} {name rest : Bytes} {id : ℕ} {m : Roots} (hn : name.length < 2 ^ 32)
    (hid : id < 2 ^ 64) :
    parseEntries (n + 1) (entryBytes (name, id) ++ rest) m = parseEntries n rest (m.insert name id) := by
  have hp : entryBytes (name, id) ++ rest = w32 name.length ++ (name ++ (w64 id ++ rest)) := by
    simp only [entryBytes, List.append_assoc]
  have hlen : r32 (w32 name.length ++ (name ++ (w64 id ++ rest))) = name.length := by
    rw [r32_w32_append, Nat.mod_eq_of_lt hn]
  have hid' : r64 (w64 id ++ rest) = id := by rw [r64_w64_append, Nat.mod_eq_of_lt hid]
  have hdrop : (w32 name.length ++ (name ++ (w64 id ++ rest))).drop 4 = name ++ (w64 id ++ rest) :=
    List.drop_left' (length_w32 _)
  have h4 : ¬(w32 name.length ++ (name ++ (w64 id ++ rest))).length < 4 := by
    rw [List.length_append, length_w32]
    omega
  have h8 : ¬(name ++ (w64 id ++ rest)).length < name.length + 8 := by
    simp only [List.length_append, length_w64]
    omega
  have hrest : (name ++ (w64 id ++ rest)).drop (name.length + 8) = rest := by
    rw [drop_append_of_length rfl, List.drop_left' (length_w64 _)]
  rw [hp, parseEntries, if_neg h4]
  simp only [hlen, hdrop, if_neg h8, hrest, List.take_left' rfl, List.drop_left' rfl, hid']

lemma parseEntries_flatMap (es : List (Bytes × ℕ)) (m : Roots)
    (h : ∀ e ∈ es, e.1.length < 2 ^ 32 ∧ e.2 < 2 ^ 64) :
    parseEntries es.length (es.flatMap entryBytes) m =
      .ok (es.foldl (fun m e => m.insert e.1 e.2) m) := by
  induction es generalizing m with
  | nil => rfl
  | cons e es ih =>
    obtain ⟨hn, hid⟩ := h e List.mem_cons_self
    rw [List.flatMap_cons, List.length_cons, parseEntries_cons hn hid,
      ih _ (fun e' he' => h e' (List.mem_cons_of_mem _ he'))]
    rfl

lemma find?_foldl_insert (es : List (Bytes × ℕ)) (m : Roots) (name : Bytes)
    (hs : es.Pairwise (fun a b => a.1 < b.1)) :
    (es.foldl (fun m e => m.insert e.1 e.2) m).find? name =
      (SortedMap.lookup name es).or (m.find? name) := by
  induction es generalizing m with
  | nil => rfl
  | cons e es ih =>
    rw [List.pairwise_cons] at hs
    rw [List.foldl_cons, ih _ hs.2, SortedMap.find?_insert, SortedMap.lookup]
    split_ifs with he
    · have hnone : SortedMap.lookup name es = none := by
        cases hl : SortedMap.lookup name es with
        | none => rfl
        | some v =>
          have := hs.1 _ ((SortedMap.lookup_eq_some hs.2).mp hl)
          exact absurd (he ▸ this) (lt_irrefl _)
      rw [hnone]
      rfl
    · rfl

lemma parseDirectory_directoryBytes (h : Storable roots) :
    parseDirectory (directoryBytes roots) = .ok roots := by
  have h4 : ¬(directoryBytes roots).length < 4 := by
    rw [directoryBytes, List.length_append, length_w32]
    omega
  have hcount : r32 (directoryBytes roots) = roots.entries.length := by
    rw [directoryBytes, r32_w32_append, Nat.mod_eq_of_lt h.size]
    rfl
  have hdrop : (directoryBytes roots).drop 4 = roots.entries.flatMap entryBytes := by
    rw [directoryBytes, List.drop_left' (length_w32 _)]
  rw [parseDirectory, if_neg h4, hcount, hdrop, parseEntries_flatMap _ _ (fun e he => ?_)]
  · congr 1
    ext1 name
    rw [find?_foldl_insert _ _ _ roots.sorted]
    exact Option.or_none
  · exact h.entry e.1 e.2 (SortedMap.find?_eq_some.mpr he)

lemma Storable.empty : Storable .empty := ⟨by decide, fun _ _ h => by simp at h⟩

lemma r32_lt (p : Bytes) : r32 p < 2 ^ 32 := by
  have h := LittleEndian.value_lt (p.take 4)
  have hle : 256 ^ (p.take 4).length ≤ 256 ^ 4 := Nat.pow_le_pow_right (by omega) (List.length_take_le _ _)
  rw [r32]
  omega

lemma r64_lt (p : Bytes) : r64 p < 2 ^ 64 := by
  have h := LittleEndian.value_lt (p.take 8)
  have hle : 256 ^ (p.take 8).length ≤ 256 ^ 8 := Nat.pow_le_pow_right (by omega) (List.length_take_le _ _)
  rw [r64]
  omega

lemma parseEntries_storable {n : ℕ} {p : Bytes} {m : Roots} (h : parseEntries n p m = .ok roots)
    (hm : ∀ name id, m.find? name = some id → name.length < 2 ^ 32 ∧ id < 2 ^ 64) :
    roots.size ≤ m.size + n ∧
      ∀ name id, roots.find? name = some id → name.length < 2 ^ 32 ∧ id < 2 ^ 64 := by
  induction n generalizing p m with
  | zero =>
    obtain rfl := Except.ok.inj h
    exact ⟨le_rfl, hm⟩
  | succ n ih =>
    rw [parseEntries] at h
    split_ifs at h
    simp only at h
    split_ifs at h
    have hm' : ∀ name id, (m.insert ((p.drop 4).take (r32 p)) (r64 ((p.drop 4).drop (r32 p)))).find? name =
        some id → name.length < 2 ^ 32 ∧ id < 2 ^ 64 := by
      intro name id hf
      rw [SortedMap.find?_insert] at hf
      split_ifs at hf with he
      · obtain rfl := Option.some.inj hf
        refine ⟨?_, r64_lt _⟩
        have := r32_lt p
        rw [← he, List.length_take]
        omega
      · exact hm name id hf
    obtain ⟨hsize, hent⟩ := ih h hm'
    have := SortedMap.size_insert_le m ((p.drop 4).take (r32 p)) (r64 ((p.drop 4).drop (r32 p)))
    exact ⟨by omega, hent⟩

lemma parseDirectory_storable {p : Bytes} (h : parseDirectory p = .ok roots) : Storable roots := by
  rw [parseDirectory] at h
  split_ifs at h
  obtain ⟨hsize, hent⟩ := parseEntries_storable h (fun _ _ hf => by simp at hf)
  have hcount := r32_lt p
  have hz : (SortedMap.empty : Roots).size = 0 := rfl
  exact ⟨by omega, hent⟩

lemma parseDirectory_iff : parseDirectory (directoryBytes roots) = .ok roots ↔ Storable roots :=
  ⟨parseDirectory_storable, parseDirectory_directoryBytes⟩

end

end ChatDesktop.Storage
