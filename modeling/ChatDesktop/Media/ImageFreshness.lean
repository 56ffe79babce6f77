import ChatDesktop.Media.ImageSources
import Mathlib.Data.List.Basic

namespace ChatDesktop.Media

open Library Library.Text Library.Reactive

namespace ImageSources

variable {s t : ImageSources} {event : ImageEvent}

lemma dataUrl_injective : Function.Injective dataUrl := by
  intro bytes bytes' h
  apply base64_injective
  have hmap := List.append_cancel_left h
  exact List.map_injective_iff.mpr (fun a b hab => UInt8.toUInt16_inj.mp hab) hmap

lemma dataUrl_ne_nil (bytes : List UInt8) : dataUrl bytes ≠ [] := by
  rw [dataUrl]
  exact List.append_ne_nil_of_left_ne_nil (by decide) _

/-- An entry that would be given is the one of the file. -/
def Fresh (s : ImageSources) : Prop :=
  ∀ cached, s.cached = some cached → isCurrent cached s.fileInfo = true → cached.url = s.expected

lemma right_iff_fresh : s.Right ↔ s.Fresh := by
  rw [Right, imageUrl, lookup, Fresh]
  cases hcached : s.cached with
  | none =>
    refine iff_of_true ?_ nofun
    dsimp only
    rw [expected]
    split_ifs <;> rfl
  | some cached =>
    dsimp only
    by_cases hcurrent : isCurrent cached s.fileInfo = true
    · rw [if_pos hcurrent]
      exact ⟨fun h c hc _ => Option.some.inj hc ▸ h, fun h => h cached rfl hcurrent⟩
    · rw [if_neg hcurrent]
      refine iff_of_true ?_ (fun c hc h => absurd (Option.some.inj hc ▸ h) hcurrent)
      change (if s.readBytes.isEmpty then _ else _ : Text × ImageSources).1 = _
      rw [expected]
      split_ifs <;> rfl

/-- Before the first save, what has been read is what is in the file. -/
structure Sound (s : ImageSources) : Prop where
  read : ∀ info bytes, ImageCall.read info bytes ∈ s.calls → bytes ≠ [] ∧ s.path.isCachePath = true
  bytes : ∀ file, s.file = some file → file.saved = false →
    ∀ info bytes, ImageCall.read info bytes ∈ s.calls → bytes = file.bytes
  cached : ∀ file, s.file = some file → file.saved = false → ∀ cached, s.cached = some cached →
    cached.url = dataUrl file.bytes ∧ file.bytes ≠ [] ∧ s.path.isCachePath = true

lemma Sound.initial (path : CachePath) (file : Option CacheFile) : Sound { path := path, file := file } :=
  ⟨nofun, nofun, nofun⟩

lemma Sound.mono (h : s.Sound) (hpath : t.path = s.path) (hfile : t.file = s.file)
    (hcached : ∀ cached, t.cached = some cached → s.cached = some cached)
    (hcalls : ∀ info bytes, ImageCall.read info bytes ∈ t.calls → ImageCall.read info bytes ∈ s.calls) : t.Sound := by
  refine ⟨fun info bytes hr => ?_, fun file hf hs info bytes hr => ?_, fun file hf hs cached hc => ?_⟩
  · rw [hpath]
    exact h.read info bytes (hcalls info bytes hr)
  · exact h.bytes file (hfile ▸ hf) hs info bytes (hcalls info bytes hr)
  · rw [hpath]
    exact h.cached file (hfile ▸ hf) hs cached (hcached cached hc)

lemma mem_set {calls : List ImageCall} {call : ℕ} {c c' : ImageCall} (h : c ∈ calls.set call c') : c ∈ calls ∨ c = c' :=
  List.mem_or_eq_of_mem_set h

lemma Sound.returns (h : s.Sound) (call : ℕ) : (s.returns call).Sound :=
  h.mono rfl rfl (fun _ hc => hc) (fun _ _ hr => List.mem_of_mem_eraseIdx hr)

lemma Sound.missed (h : s.Sound) (call : ℕ) (info : Option FileInfo) : (s.becomes call (.missed info)).Sound :=
  h.mono rfl rfl (fun _ hc => hc) (fun _ _ hr => (mem_set hr).resolve_right nofun)

lemma Sound.forget (h : s.Sound) : Sound { s with cached := none } :=
  h.mono rfl rfl nofun (fun _ _ hr => hr)

lemma touch_file (touched : Option (ℤ × ℕ)) (s : ImageSources) :
    (s.touch touched).path = s.path ∧ (s.touch touched).cached = s.cached ∧ (s.touch touched).calls = s.calls ∧
      (s.touch touched).file.map (fun file => (file.bytes, file.saved)) =
        s.file.map (fun file => (file.bytes, file.saved)) := by
  rw [touch.eq_def]
  split
  · rename_i file _ _ hfile
    split_ifs
    · exact ⟨rfl, rfl, rfl, rfl⟩
    · exact ⟨rfl, rfl, rfl, by rw [hfile]; rfl⟩
  · exact ⟨rfl, rfl, rfl, rfl⟩

lemma touch_saved {touched : Option (ℤ × ℕ)} {file : CacheFile} (hfile : s.file = some file) (h : file.saved = true) :
    s.touch touched = s := by
  rw [touch.eq_def, hfile]
  split
  · rename_i hsome
    obtain rfl := Option.some.inj hsome
    exact if_pos h
  · rfl

lemma readBytes_touch (touched : Option (ℤ × ℕ)) (s : ImageSources) : (s.touch touched).readBytes = s.readBytes := by
  obtain ⟨hpath, -, -, hfile⟩ := touch_file touched s
  have hbytes := congrArg (Option.map Prod.fst) hfile
  rw [Option.map_map, Option.map_map] at hbytes
  rw [readBytes, readBytes, hpath]
  exact congrArg (fun b : Option (List UInt8) => if s.path.isCachePath then b.getD [] else []) hbytes

lemma Sound.touch (h : s.Sound) (touched : Option (ℤ × ℕ)) : (s.touch touched).Sound := by
  obtain ⟨hpath, hcached, hcalls, hfile⟩ := touch_file touched s
  have hsame : ∀ file, (s.touch touched).file = some file → ∃ file', s.file = some file' ∧
      file'.bytes = file.bytes ∧ file'.saved = file.saved := by
    intro file hf
    rw [hf, Option.map_some, eq_comm, Option.map_eq_some_iff] at hfile
    obtain ⟨file', hf', heq⟩ := hfile
    exact ⟨file', hf', (Prod.mk.inj heq).1, (Prod.mk.inj heq).2⟩
  refine ⟨fun info bytes hr => ?_, fun file hf hs info bytes hr => ?_, fun file hf hs cached hc => ?_⟩
  · rw [hpath]
    exact h.read info bytes (hcalls ▸ hr)
  · obtain ⟨file', hf', hbytes, hsaved⟩ := hsame file hf
    rw [← hbytes]
    exact h.bytes file' hf' (hsaved.trans hs) info bytes (hcalls ▸ hr)
  · obtain ⟨file', hf', hbytes, hsaved⟩ := hsame file hf
    rw [hpath, ← hbytes]
    exact h.cached file' hf' (hsaved.trans hs) cached (hcached ▸ hc)

lemma Sound.reads (h : s.Sound) (call : ℕ) (info : Option FileInfo) (hbytes : s.readBytes.isEmpty = false) :
    (s.becomes call (.read info s.readBytes)).Sound := by
  have hpath : s.path.isCachePath = true := by
    by_contra hno
    rw [readBytes, if_neg hno] at hbytes
    cases hbytes
  refine ⟨fun info' bytes hr => ?_, fun file hf hs info' bytes hr => ?_, h.cached⟩
  · rcases mem_set hr with hr | hr
    · exact h.read info' bytes hr
    · obtain ⟨-, rfl⟩ := ImageCall.read.inj hr
      exact ⟨fun hnil => by simp [hnil] at hbytes, hpath⟩
  · rcases mem_set hr with hr | hr
    · exact h.bytes file hf hs info' bytes hr
    · obtain ⟨-, rfl⟩ := ImageCall.read.inj hr
      change s.file = some file at hf
      rw [readBytes, if_pos hpath, hf]
      rfl

lemma Sound.keep (h : s.Sound) {call : ℕ} {info : Option FileInfo} {bytes : List UInt8}
    (hcall : s.calls[call]? = some (.read info bytes)) : (s.keep info bytes).Sound := by
  have hmem := List.mem_of_getElem? hcall
  rw [ImageSources.keep]
  split_ifs
  · refine ⟨h.read, h.bytes, fun file hf hs cached hc => ?_⟩
    obtain rfl := Option.some.inj hc
    have hbytes := h.bytes file hf hs info bytes hmem
    exact ⟨congrArg dataUrl hbytes, hbytes ▸ (h.read info bytes hmem).1, (h.read info bytes hmem).2⟩
  · exact h

lemma Sound.save (h : s.Sound) (bytes : List UInt8) (renamed : Option (ℤ × ℕ)) : (s.save bytes renamed).Sound := by
  rw [ImageSources.save]
  split_ifs
  · exact h
  · cases renamed with
    | none => exact h.forget
    | some renamed =>
      refine ⟨h.read, fun file hf hs => ?_, fun _ _ _ => nofun⟩
      obtain rfl := Option.some.inj hf
      cases hs

lemma Sound.remove (h : s.Sound) (removes : Bool) : (s.remove removes).Sound := by
  rw [ImageSources.remove]
  dsimp only
  split_ifs
  · exact ⟨h.read, nofun, nofun⟩
  · exact h.forget

lemma Sound.step (h : s.Sound) (event : ImageEvent) : (s.step event).Sound := by
  cases event with
  | imageUrl =>
    refine h.mono rfl rfl (fun _ hc => hc) (fun info bytes hr => ?_)
    exact (List.mem_append.mp hr).resolve_right (by simp)
  | lookup call =>
    rw [ImageSources.step]
    split
    · rw [lookup]
      cases s.cached with
      | none => exact h.missed call none
      | some cached =>
        dsimp only
        split_ifs
        · exact h.returns call
        · exact h.forget.missed call _
    · exact h
  | read call touched =>
    rw [ImageSources.step]
    split
    · rename_i info _
      split_ifs with hempty
      · exact (h.touch touched).returns call
      · have hreads := (h.touch touched).reads call info ((readBytes_touch touched s).symm ▸ Bool.eq_false_iff.mpr hempty)
        rw [readBytes_touch] at hreads
        exact hreads
    · exact h
  | keep call =>
    rw [ImageSources.step]
    split
    · rename_i info bytes hcall
      exact (h.keep hcall).returns call
    · exact h
  | save bytes renamed => exact h.save bytes renamed
  | remove removes => exact h.remove removes
  | evict => exact h.forget

/-! ### Freshness -/

lemma Fresh.mono (h : s.Fresh) (hpath : t.path = s.path) (hfile : t.file = s.file)
    (hcached : ∀ cached, t.cached = some cached → s.cached = some cached) : t.Fresh := by
  intro cached hc hcurrent
  have hinfo : t.fileInfo = s.fileInfo := by rw [fileInfo, fileInfo, hpath, hfile]
  have hexpected : t.expected = s.expected := by rw [expected, expected, readBytes, readBytes, hpath, hfile]
  rw [hexpected]
  exact h cached (hcached cached hc) (hinfo ▸ hcurrent)

lemma fresh_of_none (h : s.cached = none) : s.Fresh := fun _ hc => nomatch h.symm.trans hc

lemma Fresh.touch (h : s.Fresh) (hs : s.Sound) (touched : Option (ℤ × ℕ)) : (s.touch touched).Fresh := by
  obtain ⟨-, hcached, -, -⟩ := touch_file touched s
  intro cached hc hcurrent
  rw [hcached] at hc
  rw [expected, readBytes_touch]
  cases hfile : s.file with
  | none =>
    have hsame : s.touch touched = s := by
      rw [ImageSources.touch.eq_def, hfile]
    rw [hsame] at hcurrent
    exact h cached hc hcurrent
  | some file =>
    cases hsaved : file.saved with
    | true =>
      rw [touch_saved hfile hsaved] at hcurrent
      exact h cached hc hcurrent
    | false =>
      obtain ⟨hurl, hne, hpath⟩ := hs.cached file hfile hsaved cached hc
      have hbytes : s.readBytes = file.bytes := by
        rw [readBytes, if_pos hpath, hfile]
        rfl
      rw [hbytes, if_neg (by simpa using hne)]
      exact hurl

lemma fresh_keep_iff (h : s.Fresh) (hs : s.Sound) {call : ℕ} {info : Option FileInfo} {bytes : List UInt8}
    (hcall : s.calls[call]? = some (.read info bytes)) : s.Meets (.keep call) ↔ (s.keep info bytes).Fresh := by
  obtain ⟨hne, hpath⟩ := hs.read info bytes (List.mem_of_getElem? hcall)
  have hlink : s.path.isSymLink = false := by simpa using (Bool.and_eq_true_iff.mp hpath).2
  rw [ImageSources.keep]
  by_cases hcost : cost bytes ≤ 32 * 1024
  · have hkept : ∀ cached : CachedImage, cached.url = dataUrl bytes →
        (Fresh { s with cached := some cached } ↔ (isCurrent cached s.fileInfo = true → dataUrl bytes = s.expected)) := by
      intro cached hurl
      constructor
      · intro hfresh hcurrent
        exact hurl ▸ hfresh cached rfl hcurrent
      · intro hfresh cached' hc hcurrent
        obtain rfl := Option.some.inj hc
        exact hurl.trans (hfresh hcurrent)
    rw [if_pos hcost]
    refine Iff.trans ?_ (hkept _ rfl).symm
    obtain hfile | ⟨file, hfile⟩ := s.file.eq_none_or_eq_some
    · refine iff_of_true (fun info bytes file _ hf => nomatch hfile.symm.trans hf) (fun hcurrent => ?_)
      simp [isCurrent, fileInfo, hfile] at hcurrent
    · have hexpected : dataUrl bytes = s.expected ↔ bytes = file.bytes := by
        rw [expected, readBytes, if_pos hpath, hfile, Option.map_some, Option.getD_some]
        split_ifs with hempty
        · rw [List.isEmpty_iff.mp hempty]
          exact iff_of_false (dataUrl_ne_nil bytes) hne
        · exact dataUrl_injective.eq_iff
      have hcurrent : ∀ cached : CachedImage, isCurrent cached s.fileInfo = true ↔
          cached.modified = some file.modified ∧ cached.size = file.size := by
        intro cached
        simp [isCurrent, fileInfo, hfile, hlink]
      rw [hexpected, hcurrent]
      constructor
      · rintro hmeets ⟨hmodified, hsize⟩
        exact hmeets info bytes file hcall hfile hcost hmodified hsize
      · intro hfresh info' bytes' file' hcall' hfile' _ hmodified hsize
        obtain ⟨rfl, rfl⟩ := ImageCall.read.inj (Option.some.inj (hcall.symm.trans hcall'))
        obtain rfl := Option.some.inj (hfile.symm.trans hfile')
        exact hfresh ⟨hmodified, hsize⟩
  · rw [if_neg hcost]
    refine iff_of_true (fun info' bytes' file hcall' _ hcost' => absurd hcost' ?_) h
    obtain ⟨-, rfl⟩ := ImageCall.read.inj (Option.some.inj (hcall.symm.trans hcall'))
    exact hcost

lemma meets_iff_fresh (hs : s.Sound) (h : s.Fresh) (event : ImageEvent) : s.Meets event ↔ (s.step event).Fresh := by
  cases event with
  | imageUrl => exact iff_of_true trivial (h.mono rfl rfl (fun _ hc => hc))
  | lookup call =>
    refine iff_of_true trivial ?_
    rw [step]
    split
    · rw [lookup]
      cases hcached : s.cached with
      | none => exact h.mono rfl rfl (fun _ hc => hc)
      | some cached =>
        dsimp only
        split_ifs
        · exact h.mono rfl rfl (fun _ hc => hc)
        · exact fresh_of_none rfl
    · exact h
  | read call touched =>
    refine iff_of_true trivial ?_
    rw [step]
    split
    · split_ifs
      · exact (h.touch hs touched).mono rfl rfl (fun _ hc => hc)
      · exact (h.touch hs touched).mono rfl rfl (fun _ hc => hc)
    · exact h
  | keep call =>
    rw [step]
    split
    · rename_i info bytes hcall
      refine (fresh_keep_iff h hs hcall).trans ⟨fun hk => hk.mono rfl rfl (fun _ hc => hc), fun hk => ?_⟩
      exact hk.mono rfl rfl (fun _ hc => hc)
    · rename_i hno
      exact iff_of_true (fun info bytes _ hcall => absurd hcall (hno info bytes)) h
  | save bytes renamed =>
    refine iff_of_true trivial ?_
    rw [step, save]
    split_ifs
    · exact h
    · cases renamed with
      | none => exact fresh_of_none rfl
      | some renamed => exact fresh_of_none rfl
  | remove removes =>
    refine iff_of_true trivial ?_
    rw [step, remove]
    dsimp only
    split_ifs <;> exact fresh_of_none rfl
  | evict => exact iff_of_true trivial (fresh_of_none rfl)

/-- In every state of a run `imageUrl` gives the URL of what is in the file, just when what is kept is that or is known
not to be. -/
theorem right_iff_meets (path : CachePath) (file : Option CacheFile) (events : List ImageEvent) :
    Each step (fun s event => (s.step event).Right) { path := path, file := file } events ↔
      Each step Meets { path := path, file := file } events := by
  refine Iff.symm (each_true.iff_kept (G := Sound) (K := Right) (.initial path file) (right_iff_fresh.mpr (fresh_of_none rfl))
    (fun s event hs _ => ⟨hs.step event, fun hr => ?_⟩))
  rw [right_iff_fresh]
  exact meets_iff_fresh hs (right_iff_fresh.mp hr) event

def replacedBetween : List ImageEvent :=
  [.imageUrl, .lookup 0, .read 0 none, .save [2] (some (1, 200)), .keep 0]

theorem replacedBetween_stale :
    (after step { file := some { bytes := [1], modified := 0, size := 100 } } replacedBetween).calls = [] ∧
      ¬(after step { file := some { bytes := [1], modified := 0, size := 100 } } replacedBetween).Right := by
  refine ⟨rfl, fun h => ?_⟩
  exact absurd h (by rw [Right]; decide)

end ImageSources

end ChatDesktop.Media
