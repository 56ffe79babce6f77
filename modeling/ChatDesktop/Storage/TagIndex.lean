import ChatDesktop.Storage.Layout

namespace ChatDesktop.Storage

open Library LocalStorage

def tagged (m : TagIndex) (tag : UInt32) : SortedMap ℕ Unit := (m.find? tag).getD .empty

structure TagIndexed (m : TagIndex) (heads : Heads) : Prop where
  mem : ∀ tag id, id ∈ (tagged m tag).keys ↔ ∃ hi, heads.find? id = some hi ∧ hi.tag = tag
  nonempty : ∀ tag ts, m.find? tag = some ts → ts ≠ .empty

section

variable {m m' : TagIndex} {heads heads' : Heads} {tag tag' : UInt32} {id : ℕ}

lemma tagged_insert (ts : SortedMap ℕ Unit) :
    tagged (m.insert tag ts) tag' = if tag = tag' then ts else tagged m tag' := by
  rw [tagged, SortedMap.find?_insert]
  split_ifs <;> rfl

lemma tagged_erase : tagged (m.erase tag) tag' = if tag' = tag then .empty else tagged m tag' := by
  rw [tagged, SortedMap.find?_erase]
  split_ifs <;> rfl

lemma tagged_addTag :
    tagged (addTag m tag id) tag' = if tag = tag' then (tagged m tag').insert id () else tagged m tag' := by
  rw [addTag, tagged_insert]
  split_ifs with h
  · rw [h, tagged]
  · rfl

lemma tagged_removeTag :
    tagged (removeTag m tag id) tag' = if tag' = tag then (tagged m tag').erase id else tagged m tag' := by
  unfold removeTag
  cases hm : m.find? tag with
  | none =>
    split_ifs with h
    · rw [h, tagged, hm]
      rfl
    · rfl
  | some ts =>
    have ht : tagged m tag = ts := by rw [tagged, hm]; rfl
    simp only
    by_cases he : (ts.erase id).isEmpty = true
    · rw [if_pos he, tagged_erase]
      split_ifs with h
      · rw [h, ht, SortedMap.isEmpty_iff.mp he]
      · rfl
    · rw [if_neg he, tagged_insert]
      by_cases h : tag' = tag
      · rw [if_pos h, if_pos h.symm, h, ht]
      · rw [if_neg h, if_neg (Ne.symm h)]

namespace TagIndexed

lemma empty : TagIndexed .empty .empty := ⟨fun _ _ => by simp [tagged], fun _ _ h => by simp at h⟩

lemma add (h : TagIndexed m heads) {hi : HeadInfo} (hid : id ∉ heads.keys) (htag : hi.tag = tag) :
    TagIndexed (addTag m tag id) (heads.insert id hi) := by
  have hnone := SortedMap.not_mem_keys.mp hid
  refine ⟨fun tag' j => ?_, fun tag' ts hts => ?_⟩
  · rw [tagged_addTag]
    by_cases hj : j = id
    · subst hj
      rw [SortedMap.find?_insert, if_pos rfl]
      split_ifs with ht
      · simp [SortedMap.mem_keys_insert, htag, ht]
      · rw [h.mem, hnone]
        simp [htag, ht]
    · rw [SortedMap.find?_insert, if_neg (Ne.symm hj), ← h.mem]
      split_ifs with ht
      · rw [SortedMap.mem_keys_insert, or_iff_right hj]
      · rfl
  · rw [addTag, SortedMap.find?_insert] at hts
    split_ifs at hts with ht
    · rintro rfl
      have hf := congrArg (fun t => SortedMap.find? t id) (Option.some.inj hts)
      simp at hf
    · exact h.nonempty tag' ts hts

lemma remove (h : TagIndexed m heads) {hi : HeadInfo} (hid : heads.find? id = some hi) :
    TagIndexed (removeTag m hi.tag id) (heads.erase id) := by
  refine ⟨fun tag' j => ?_, fun tag' ts hts => ?_⟩
  · rw [tagged_removeTag]
    by_cases hj : j = id
    · subst hj
      rw [SortedMap.find?_erase, if_pos rfl]
      split_ifs with ht
      · simp [SortedMap.mem_keys_erase]
      · rw [h.mem, hid]
        simp [Ne.symm ht]
    · rw [SortedMap.find?_erase, if_neg hj, ← h.mem]
      split_ifs with ht
      · rw [SortedMap.mem_keys_erase, and_iff_right hj]
      · rfl
  · unfold removeTag at hts
    cases hm : m.find? hi.tag with
    | none =>
      rw [hm] at hts
      exact h.nonempty tag' ts hts
    | some old =>
      rw [hm] at hts
      by_cases he : (old.erase id).isEmpty = true
      · simp only [if_pos he, SortedMap.find?_erase] at hts
        split_ifs at hts
        exact h.nonempty tag' ts hts
      · simp only [if_neg he, SortedMap.find?_insert] at hts
        split_ifs at hts
        · rintro rfl
          exact he (by rw [Option.some.inj hts, SortedMap.isEmpty_iff])
        · exact h.nonempty tag' ts hts

lemma relink (h : TagIndexed m heads) {hi hi' : HeadInfo} (hid : heads.find? id = some hi)
    (htag : hi'.tag = hi.tag) : TagIndexed m (heads.insert id hi') := by
  refine ⟨fun tag j => ?_, h.nonempty⟩
  rw [h.mem, SortedMap.find?_insert]
  split_ifs with hj
  · subst hj
    simp [hid, htag]
  · rfl

end TagIndexed

end

end ChatDesktop.Storage
