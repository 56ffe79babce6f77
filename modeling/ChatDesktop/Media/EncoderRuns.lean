import ChatDesktop.Library.Reactive
import ChatDesktop.Media.M4aEncoder

namespace ChatDesktop.Media

open Library Library.Reactive Library.Text

variable {Path : Type}

inductive EncoderEvent (Path : Type)
  | start (path : Path) (sampleRate channels : ℤ) (backend : Backend)
  | write (data : List UInt8) (stored : ℕ)
  | savePreview (path : Path) (file : PcmFile)
  | finish (file : PcmFile)
  | readyToSendAudioBuffer (answers : List Answer)
  | errorOccurred (error : QString)
  | stopped (hasContent : Bool)
  | timeout
  | singleShot
  deriving DecidableEq

/-- A signal `encodingFinished`, of the encoding with that number, and what the input had taken of it. -/
structure Report (Path : Type) where
  number : ℕ
  path : Path
  success : Bool
  taken : List QAudioBuffer
  deriving DecidableEq, Repr

/-- An encoder with the data of its writes, the encodings it began, each with what was written by then, and the
signals it emitted. -/
structure Encoding (Path : Type) where
  encoder : M4aEncoder Path := {}
  recorded : List UInt8 := []
  begun : List (Path × List UInt8) := []
  reports : List (Report Path) := []
  deriving DecidableEq

namespace Encoding

def write (data : List UInt8) (stored : ℕ) (x : Encoding Path) : Encoding Path :=
  let (encoder, written) := x.encoder.write data stored
  { x with encoder := encoder, recorded := if written then x.recorded ++ data else x.recorded }

def began (path : Path) (call : M4aEncoder Path × Bool) (x : Encoding Path) : Encoding Path :=
  { x with encoder := call.1, begun := if call.2 then x.begun ++ [(path, x.recorded)] else x.begun }

def finish (file : PcmFile) (x : Encoding Path) : Encoding Path :=
  match x.encoder.path with
  | none => { x with encoder := (x.encoder.finish file).1 }
  | some path => x.began path (x.encoder.finish file)

def deliver (x : Encoding Path) : Encoding Path :=
  let (encoder, signal) := x.encoder.deliver
  match signal, x.encoder.job with
  | some (path, success), some job =>
    { x with
      encoder := encoder
      reports := x.reports ++ [⟨x.begun.length - 1, path, success, job.taken⟩] }
  | _, _ => { x with encoder := encoder }

def step (x : Encoding Path) : EncoderEvent Path → Encoding Path
  | .start path sampleRate channels backend =>
    { x with encoder := (x.encoder.start path sampleRate channels backend).1 }
  | .write data stored => x.write data stored
  | .savePreview path file => x.began path (x.encoder.savePreview path file)
  | .finish file => x.finish file
  | .readyToSendAudioBuffer answers =>
    { x with encoder := x.encoder.onJob (Job.send x.encoder.format x.encoder.pcm answers) }
  | .errorOccurred error => { x with encoder := x.encoder.onJob (Job.complete error) }
  | .stopped hasContent => { x with encoder := x.encoder.onJob (Job.onStopped hasContent) }
  | .timeout => { x with encoder := x.encoder.onJob Job.onTimeout }
  | .singleShot => x.deliver

def run (es : List (EncoderEvent Path)) : Encoding Path := after step {} es

end Encoding

/-! ### What holds after every step -/

structure Encoding.Current (Q : Prop) (x : Encoding Path) (job : Job Path) : Prop where
  stands : job.Stands Q
  sends : ∃ snapshot, x.begun.getLast? = some (job.path, snapshot) ∧ snapshot <+: x.recorded ∧
    job.limit = snapshot.length ∧ job.Sends x.encoder.format snapshot
  untold : job.Untold → ∀ r ∈ x.reports, r.number + 1 < x.begun.length
  told : ¬job.Untold → ∃ r ∈ x.reports, r.number + 1 = x.begun.length

/-- A signal is that of an encoding, and is one of success only if all of its snapshot was sent. -/
structure Encoding.Truthful (Q : Prop) (x : Encoding Path) (r : Report Path) : Prop where
  number : r.number < x.begun.length
  sent : ∃ snapshot, x.begun[r.number]? = some (r.path, snapshot) ∧
    r.taken <+: stream x.encoder.format snapshot ∧
    (r.success = true → r.taken = stream x.encoder.format snapshot ∨ Q)

structure Encoding.Sound (Q : Prop) (x : Encoding Path) : Prop where
  pcmBytes : x.encoder.pcmBytes = x.recorded.length
  stored : x.recorded <+: x.encoder.pcm
  whole : x.encoder.failed = false → x.encoder.pcm = x.recorded
  opened : x.encoder.isOpen = true → x.encoder.path.isSome = true ∧ 0 < x.encoder.format.channelCount
  begun : x.begun ≠ [] → x.encoder.path.isSome = true ∧ 0 < x.encoder.format.channelCount
  job : ∀ job, x.encoder.job = some job → x.Current Q job
  reports : ∀ r ∈ x.reports, x.Truthful Q r
  once : x.reports.Pairwise (fun r r' => r.number < r'.number)

namespace Encoding

variable {Q : Prop} {x : Encoding Path} {job : Job Path} {r : Report Path} {format : QAudioFormat}

lemma sound_new : Sound Q ({} : Encoding Path) :=
  ⟨rfl, List.prefix_rfl, fun _ => rfl, by simp, by simp, by simp, by simp, .nil⟩

lemma Sound.begun_of_job (h : x.Sound Q) (hj : x.encoder.job = some job) : x.begun ≠ [] := by
  obtain ⟨snapshot, hb, -⟩ := (h.job job hj).sends
  intro hn
  rw [hn] at hb
  cases hb

lemma Sound.close (h : x.Sound Q) {isOpen : Bool} (error : QString) (ho : isOpen = true → x.encoder.isOpen = true) :
    { x with encoder := { x.encoder with isOpen := isOpen, errorString := error } }.Sound Q :=
  ⟨h.pcmBytes, h.stored, h.whole, fun hopen => h.opened (ho hopen), h.begun,
    fun job hj => ⟨(h.job job hj).stands, (h.job job hj).sends, (h.job job hj).untold, (h.job job hj).told⟩,
    fun r hr => ⟨(h.reports r hr).number, (h.reports r hr).sent⟩, h.once⟩

lemma Sound.setErrorString (h : x.Sound Q) (error : QString) :
    { x with encoder := x.encoder.setErrorString error }.Sound Q := h.close _ id

lemma Sound.dropJob (h : x.Sound Q) : { x with encoder := { x.encoder with job := none } }.Sound Q :=
  ⟨h.pcmBytes, h.stored, h.whole, h.opened, h.begun, nofun,
    fun r hr => ⟨(h.reports r hr).number, (h.reports r hr).sent⟩, h.once⟩

lemma Sound.chooseFormat (h : x.Sound Q) (hp : x.encoder.path = none) {encoder : M4aEncoder Path}
    (hpcm : encoder.pcm = x.encoder.pcm) (hbytes : encoder.pcmBytes = x.encoder.pcmBytes)
    (hfailed : encoder.failed = x.encoder.failed) (hjob : encoder.job = x.encoder.job)
    (hopen : encoder.isOpen = true → encoder.path.isSome = true ∧ 0 < encoder.format.channelCount) :
    { x with encoder := encoder }.Sound Q := by
  have hbegun : x.begun = [] := by
    by_contra hn
    have := (h.begun hn).1
    rw [hp] at this
    cases this
  refine ⟨hbytes.trans h.pcmBytes, ?_, ?_, hopen, fun hn => absurd hbegun hn, ?_, ?_, h.once⟩
  · rw [hpcm]
    exact h.stored
  · rw [hfailed, hpcm]
    exact h.whole
  · intro job hj
    rw [hjob] at hj
    exact absurd hbegun (h.begun_of_job hj)
  · intro r hr
    have := (h.reports r hr).number
    rw [hbegun] at this
    cases this

lemma Sound.start (h : x.Sound Q) (path : Path) (sampleRate channels : ℤ) (backend : Backend) :
    { x with encoder := (x.encoder.start path sampleRate channels backend).1 }.Sound Q := by
  unfold M4aEncoder.start
  split_ifs with hc
  · exact h.setErrorString _
  · have hp : x.encoder.path = none := by
      rw [← Option.not_isSome_iff_eq_none]
      tauto
    have hopen : x.encoder.isOpen ≠ true := by tauto
    cases backend with
    | unsupported => exact h.setErrorString _
    | cannotOpen error => exact h.chooseFormat hp rfl rfl rfl rfl (fun ho => absurd ho hopen)
    | ready =>
      refine h.chooseFormat hp rfl rfl rfl rfl (fun _ => ⟨rfl, ?_⟩)
      change 0 < channels.toNat
      omega

lemma Current.write (h : x.Current Q job) (data : List UInt8) (encoder : M4aEncoder Path)
    (hf : encoder.format = x.encoder.format) :
    { x with encoder := encoder, recorded := x.recorded ++ data }.Current Q job := by
  obtain ⟨snapshot, hb, hs, hl, hsends⟩ := h.sends
  exact ⟨h.stands, ⟨snapshot, hb, hs.trans (List.prefix_append _ _), hl, hf ▸ hsends⟩, h.untold, h.told⟩

lemma Sound.write (h : x.Sound Q) (data : List UInt8) (stored : ℕ) : (x.write data stored).Sound Q := by
  unfold Encoding.write M4aEncoder.write
  split_ifs with ho hf hs
  · exact h.setErrorString _
  · refine ⟨h.pcmBytes, h.stored.trans (List.prefix_append _ _), nofun, h.opened, h.begun,
      fun job hj => ?_, fun r hr => ⟨(h.reports r hr).number, (h.reports r hr).sent⟩, h.once⟩
    exact ⟨(h.job job hj).stands, (h.job job hj).sends, (h.job job hj).untold, (h.job job hj).told⟩
  · have hpcm := h.whole (by simpa using hf)
    refine ⟨?_, ?_, fun _ => ?_, h.opened, h.begun, fun job hj => (h.job job hj).write data _ rfl,
      fun r hr => ⟨(h.reports r hr).number, (h.reports r hr).sent⟩, h.once⟩
    · change x.encoder.pcmBytes + data.length = (x.recorded ++ data).length
      rw [h.pcmBytes, List.length_append]
    · change x.recorded ++ data <+: x.encoder.pcm ++ data
      exact hpcm ▸ List.prefix_rfl
    · change x.encoder.pcm ++ data = x.recorded ++ data
      rw [hpcm]
  · exact h

lemma Sound.begin (h : x.Sound Q) (ho : x.encoder.isOpen = true) (path : Path) :
    { x with
      encoder := { x.encoder with job := some { path := path, limit := x.encoder.pcmBytes } }
      begun := x.begun ++ [(path, x.recorded)] }.Sound Q := by
  refine ⟨h.pcmBytes, h.stored, h.whole, h.opened, fun _ => h.opened ho, fun job hj => ?_, fun r hr => ?_, h.once⟩
  · obtain rfl := Option.some.inj hj
    refine ⟨⟨fun _ => ⟨rfl, rfl⟩, nofun, nofun⟩, ?_, fun _ r hr => ?_, fun hn => absurd (Or.inl rfl) hn⟩
    · exact ⟨x.recorded, List.getLast?_concat, List.prefix_rfl, h.pcmBytes, sends_begun path _⟩
    · have := (h.reports r hr).number
      rw [List.length_append]
      exact Nat.add_lt_add_right this 1
  · obtain ⟨hn, snapshot, hb, ht⟩ := h.reports r hr
    refine ⟨?_, snapshot, ?_, ht⟩
    · rw [List.length_append]
      exact Nat.lt_add_right 1 hn
    · rw [List.getElem?_append_left hn]
      exact hb

lemma encode_cases (path : Path) (file : PcmFile) (e : M4aEncoder Path) :
    (∃ error, e.encode path file = (e.setErrorString error, false)) ∨
    (∃ error, e.encode path file = ({ e.setErrorString error with job := none }, false)) ∨
    (e.encode path file = ({ e with job := some { path := path, limit := e.pcmBytes } }, true) ∧ e.isOpen = true) := by
  unfold M4aEncoder.encode
  split_ifs with hc
  · exact Or.inl ⟨_, rfl⟩
  · have ho : e.isOpen = true := by
      rw [← Bool.not_eq_false]
      tauto
    cases file.cannotOpen with
    | some error => exact Or.inr (Or.inl ⟨error, rfl⟩)
    | none => exact Or.inr (Or.inr ⟨rfl, ho⟩)

lemma Sound.savePreview (h : x.Sound Q) (path : Path) (file : PcmFile) :
    (x.began path (x.encoder.savePreview path file)).Sound Q := by
  unfold M4aEncoder.savePreview
  rcases encode_cases path file x.encoder with ⟨error, he⟩ | ⟨error, he⟩ | ⟨he, ho⟩
  · rw [he]
    exact h.setErrorString error
  · rw [he]
    exact (h.setErrorString error).dropJob
  · rw [he]
    exact h.begin ho path

lemma Sound.finish (h : x.Sound Q) (file : PcmFile) : (x.finish file).Sound Q := by
  unfold Encoding.finish M4aEncoder.finish
  cases hp : x.encoder.path with
  | none => exact h.setErrorString _
  | some path =>
    dsimp only
    rcases encode_cases path file x.encoder with ⟨error, he⟩ | ⟨error, he⟩ | ⟨he, ho⟩
    · rw [he]
      exact h.setErrorString error
    · rw [he]
      exact (h.setErrorString error).dropJob
    · rw [he]
      exact (h.begin ho path).close _ nofun

lemma Sound.onJob (h : x.Sound Q) {f : Job Path → Job Path} (hm : ∀ job : Job Path, job.Moved Q (f job))
    (hsends : ∀ job snapshot, x.encoder.job = some job → snapshot <+: x.recorded → job.limit = snapshot.length →
      job.Sends x.encoder.format snapshot → (f job).Sends x.encoder.format snapshot) :
    { x with encoder := x.encoder.onJob f }.Sound Q := by
  refine ⟨h.pcmBytes, h.stored, h.whole, h.opened, h.begun, fun job' hj' => ?_,
    fun r hr => ⟨(h.reports r hr).number, (h.reports r hr).sent⟩, h.once⟩
  obtain ⟨job, hj, rfl⟩ := Option.map_eq_some_iff.mp hj'
  obtain ⟨hstands, ⟨snapshot, hb, hs, hl, hsent⟩, huntold, htold⟩ := h.job job hj
  have hmoved := hm job
  refine ⟨hstands.moved hmoved, ⟨snapshot, ?_, hs, hmoved.limit.trans hl, hsends job snapshot hj hs hl hsent⟩, ?_, ?_⟩
  · rw [hmoved.path]
    exact hb
  · rw [hmoved.untold_iff]
    exact huntold
  · rw [hmoved.untold_iff]
    exact htold

lemma Sound.report (h : x.Sound Q) (hj : x.encoder.job = some job) {error : QString}
    (hf : job.finished = some error) :
    { x with
      encoder := { x.encoder with job := some { job with finished := none } }
      reports := x.reports ++ [Report.mk (x.begun.length - 1) job.path error.isEmpty job.taken] }.Sound Q := by
  have hpos := List.length_pos_iff.mpr (h.begun_of_job hj)
  obtain ⟨hstands, ⟨snapshot, hb, hs, hl, hsends⟩, huntold, -⟩ := h.job job hj
  have hold := huntold (Or.inr (by rw [hf]; rfl))
  have hcompleted : job.completed = true := by
    by_contra hn
    have := (hstands.waits (by simpa using hn)).2
    rw [hf] at this
    cases this
  refine ⟨h.pcmBytes, h.stored, h.whole, h.opened, h.begun, fun job' hj' => ?_, fun r hr => ?_, ?_⟩
  · obtain rfl := Option.some.inj hj'
    refine ⟨⟨fun hn => ?_, hstands.settled, nofun⟩, ⟨snapshot, hb, hs, hl, hsends⟩, fun hn => ?_, fun _ => ?_⟩
    · exact absurd hcompleted (by simpa using hn)
    · rcases hn with hn | hn
      · exact absurd hcompleted (by simpa using hn)
      · cases hn
    · refine ⟨_, List.mem_append_right _ List.mem_cons_self, ?_⟩
      exact Nat.sub_add_cancel hpos
  · rcases List.mem_append.mp hr with hr | hr
    · exact ⟨(h.reports r hr).number, (h.reports r hr).sent⟩
    · obtain rfl := List.mem_singleton.mp hr
      refine ⟨Nat.sub_lt hpos Nat.one_pos, snapshot, ?_, hsends.taken, fun hsuccess => ?_⟩
      · rw [← List.getLast?_eq_getElem?]
        exact hb
      · rw [List.isEmpty_iff.mp hsuccess] at hf
        refine (hstands.truthful hf).imp_left (fun he => ?_)
        rw [Job.Sends, if_pos he] at hsends
        exact hsends
  · refine List.pairwise_append.mpr ⟨h.once, List.pairwise_singleton _ _, fun r hr r' hr' => ?_⟩
    obtain rfl := List.mem_singleton.mp hr'
    have := hold r hr
    change r.number < x.begun.length - 1
    omega

lemma Sound.deliver (h : x.Sound Q) : x.deliver.Sound Q := by
  unfold Encoding.deliver M4aEncoder.deliver
  cases hj : x.encoder.job with
  | none => exact h
  | some job =>
    dsimp only
    cases hf : job.finished with
    | none => exact h
    | some error =>
      dsimp only
      have hr := h.report hj hf
      split_ifs
      · exact hr
      · exact hr.setErrorString error

lemma Sound.step (h : x.Sound Q) (e : EncoderEvent Path) (hQ : e = .errorOccurred [] → Q) : (x.step e).Sound Q := by
  cases e with
  | start path sampleRate channels backend => exact h.start path sampleRate channels backend
  | write data stored => exact h.write data stored
  | savePreview path file => exact h.savePreview path file
  | finish file => exact h.finish file
  | readyToSendAudioBuffer answers =>
    refine h.onJob (fun job => moved_send answers) (fun job snapshot hj hs hl hsends => ?_)
    exact sends_send (h.begun (h.begun_of_job hj)).2 (hs.trans h.stored) hl hsends
  | errorOccurred error =>
    refine h.onJob (fun job => moved_complete (fun he => Or.inr (hQ (he ▸ rfl)))) ?_
    exact fun job snapshot _ _ _ hsends => sends_complete hsends error
  | stopped hasContent =>
    refine h.onJob (fun job => moved_onStopped hasContent) (fun job snapshot _ _ _ hsends => ?_)
    unfold Job.onStopped
    split_ifs
    · exact sends_complete hsends _
    · exact sends_complete hsends _
    · exact hsends
  | timeout =>
    refine h.onJob (fun job => moved_onTimeout) (fun job snapshot _ _ _ hsends => ?_)
    unfold Job.onTimeout
    split_ifs
    · exact sends_complete hsends _
    · exact hsends
  | singleShot => exact h.deliver

lemma Sound.after (h : x.Sound Q) {es : List (EncoderEvent Path)} (hQ : .errorOccurred [] ∈ es → Q) :
    (after Encoding.step x es).Sound Q := by
  induction es generalizing x with
  | nil => exact h
  | cons e es ih =>
    refine ih (h.step e (fun he => hQ (he ▸ List.mem_cons_self))) (fun hmem => ?_)
    exact hQ (List.mem_cons_of_mem _ hmem)

lemma sound_run {es : List (EncoderEvent Path)} (hQ : .errorOccurred [] ∈ es → Q) : (run es).Sound Q :=
  sound_new.after hQ

end Encoding

/-! ### What holds in every run -/

/-- What the backend's recorder takes is at any time the beginning of the stream of what was recorded when the
encoding began, whatever it refused, and all of that stream once the job has ended; and as many buffers as it
takes next continue it. -/
theorem snapshot_streamed (es : List (EncoderEvent Path)) (job : Job Path)
    (hj : (Encoding.run es).encoder.job = some job) :
    ∃ snapshot, (Encoding.run es).begun.getLast? = some (job.path, snapshot) ∧
      snapshot <+: (Encoding.run es).recorded ∧
      (stream (Encoding.run es).encoder.format snapshot).flatMap QAudioBuffer.data = snapshot ∧
      job.taken <+: stream (Encoding.run es).encoder.format snapshot ∧
      (job.ended = true ↔ job.taken = stream (Encoding.run es).encoder.format snapshot) ∧
      (job.completed = false → ∀ n,
        (job.send (Encoding.run es).encoder.format (Encoding.run es).encoder.pcm
          (List.replicate n {})).taken =
        (stream (Encoding.run es).encoder.format snapshot).take (job.taken.length + n)) := by
  have h : (Encoding.run es).Sound True := Encoding.sound_run (fun _ => trivial)
  have hf := (h.begun (h.begun_of_job hj)).2
  obtain ⟨snapshot, hb, hs, hl, hsends⟩ := (h.job job hj).sends
  refine ⟨snapshot, hb, hs, data_stream hf, hsends.taken, hsends.ended_iff, fun hc n => ?_⟩
  exact send_taken hf (hs.trans h.stored) hl hsends hc

theorem snapshot_streamed_preview :
    ∃ job snapshot, (Encoding.run [.start 0 16000 1 .ready, .write [1, 2] 2, .savePreview 1 {}] :
      Encoding ℕ).encoder.job = some job ∧ job.taken <+: stream { sampleRate := 16000, channelCount := 1 } snapshot := by
  obtain ⟨snapshot, -, -, -, htaken, -⟩ :=
    snapshot_streamed [.start 0 16000 1 .ready, .write [1, 2] 2, .savePreview 1 {}] _ rfl
  exact ⟨_, snapshot, rfl, htaken⟩

/-- Each encoding is told of at most once, of success only if all of what was recorded by its beginning went to
the recorder, unless the recorder gave an error without a text; and the last one was told of, or is about to be,
or waits under its timeout. -/
theorem encodings_told (es : List (EncoderEvent Path)) :
    (Encoding.run es).reports.Pairwise (fun r r' => r.number < r'.number) ∧
    (∀ r ∈ (Encoding.run es).reports, ∃ snapshot,
      (Encoding.run es).begun[r.number]? = some (r.path, snapshot) ∧
      (r.success = true → r.taken = stream (Encoding.run es).encoder.format snapshot ∨
        .errorOccurred [] ∈ es)) ∧
    ∀ job, (Encoding.run es).encoder.job = some job →
      (job.completed = false ∧ job.timeout = true) ∨ job.finished.isSome = true ∨
      ∃ r ∈ (Encoding.run es).reports, r.number + 1 = (Encoding.run es).begun.length := by
  have h : (Encoding.run es).Sound (.errorOccurred [] ∈ es) := Encoding.sound_run id
  refine ⟨h.once, fun r hr => ?_, fun job hj => ?_⟩
  · obtain ⟨-, snapshot, hb, -, hsent⟩ := h.reports r hr
    exact ⟨snapshot, hb, hsent⟩
  · have hcurrent := h.job job hj
    by_cases hu : job.Untold
    · rcases hu with hc | hf
      · exact Or.inl ⟨hc, (hcurrent.stands.waits hc).1⟩
      · exact Or.inr (Or.inl hf)
    · exact Or.inr (Or.inr (hcurrent.told hu))

/-! ### A recording that was finished -/

structure Encoding.Closed (path : Path) (recorded : List UInt8) (begun : List (Path × List UInt8))
    (x : Encoding Path) : Prop where
  isOpen : x.encoder.isOpen = false
  path : x.encoder.path = some path
  job : x.encoder.job.isSome = true
  recorded : x.recorded = recorded
  begun : x.begun = begun

section

variable {path : Path} {recorded : List UInt8} {begun : List (Path × List UInt8)} {x : Encoding Path}

lemma encode_closed {e : M4aEncoder Path} (h : e.isOpen = false) (path : Path) (file : PcmFile) :
    e.encode path file = (e.setErrorString
      (ofAscii "The recording contains no complete audio or could not be encoded."), false) :=
  if_pos (Or.inl h)

lemma Encoding.Closed.setErrorString (h : x.Closed path recorded begun) (error : QString) :
    { x with encoder := x.encoder.setErrorString error }.Closed path recorded begun :=
  ⟨h.isOpen, h.path, h.job, h.recorded, h.begun⟩

lemma Encoding.Closed.onJob (h : x.Closed path recorded begun) (f : Job Path → Job Path) :
    { x with encoder := x.encoder.onJob f }.Closed path recorded begun :=
  ⟨h.isOpen, h.path, by rw [M4aEncoder.onJob, Option.isSome_map, h.job], h.recorded, h.begun⟩

lemma Encoding.Closed.start (h : x.Closed path recorded begun) (path' : Path) (sampleRate channels : ℤ)
    (backend : Backend) :
    { x with encoder := (x.encoder.start path' sampleRate channels backend).1 }.Closed path recorded begun := by
  have hp : x.encoder.path.isSome = true := by rw [h.path, Option.isSome_some]
  unfold M4aEncoder.start
  rw [if_pos (Or.inr (Or.inl hp))]
  exact h.setErrorString _

lemma Encoding.Closed.write (h : x.Closed path recorded begun) (data : List UInt8) (stored : ℕ) :
    (x.write data stored).Closed path recorded begun := by
  unfold Encoding.write M4aEncoder.write
  rw [if_neg (by simp [h.isOpen])]
  exact h

lemma Encoding.Closed.savePreview (h : x.Closed path recorded begun) (path' : Path) (file : PcmFile) :
    (x.began path' (x.encoder.savePreview path' file)).Closed path recorded begun := by
  unfold M4aEncoder.savePreview
  rw [encode_closed h.isOpen]
  exact h.setErrorString _

lemma Encoding.Closed.finish (h : x.Closed path recorded begun) (file : PcmFile) :
    (x.finish file).Closed path recorded begun := by
  unfold Encoding.finish M4aEncoder.finish
  rw [h.path]
  dsimp only
  rw [encode_closed h.isOpen]
  exact h.setErrorString _

lemma Encoding.Closed.deliver (h : x.Closed path recorded begun) : x.deliver.Closed path recorded begun := by
  unfold Encoding.deliver M4aEncoder.deliver
  cases hj : x.encoder.job with
  | none => exact h
  | some job =>
    dsimp only
    cases hf : job.finished with
    | none => exact h
    | some error =>
      dsimp only
      split_ifs
      · exact ⟨h.isOpen, h.path, rfl, h.recorded, h.begun⟩
      · exact ⟨h.isOpen, h.path, rfl, h.recorded, h.begun⟩

lemma Encoding.Closed.step (h : x.Closed path recorded begun) (e : EncoderEvent Path) :
    (x.step e).Closed path recorded begun := by
  cases e with
  | start path' sampleRate channels backend => exact h.start path' sampleRate channels backend
  | write data stored => exact h.write data stored
  | savePreview path' file => exact h.savePreview path' file
  | finish file => exact h.finish file
  | readyToSendAudioBuffer answers => exact h.onJob _
  | errorOccurred error => exact h.onJob _
  | stopped hasContent => exact h.onJob _
  | timeout => exact h.onJob _
  | singleShot => exact h.deliver

lemma Encoding.Closed.after (h : x.Closed path recorded begun) (es : List (EncoderEvent Path)) :
    (after Encoding.step x es).Closed path recorded begun := by
  induction es generalizing x with
  | nil => exact h
  | cons e es ih => exact ih (h.step e)

lemma Encoding.closed_finish {file : PcmFile} (hp : x.encoder.path = some path) (h : (x.encoder.finish file).2 = true) :
    (x.finish file).Closed path x.recorded (x.begun ++ [(path, x.recorded)]) := by
  unfold Encoding.finish M4aEncoder.finish at *
  rw [hp] at h ⊢
  dsimp only at h ⊢
  rcases encode_cases path file x.encoder with ⟨error, he⟩ | ⟨error, he⟩ | ⟨he, -⟩
  · rw [he] at h
    cases h
  · rw [he] at h
    cases h
  · rw [he]
    exact ⟨rfl, hp, rfl, rfl, rfl⟩

end

lemma filter_number_lt {rs : List (Report Path)} {n : ℕ} (h : ∀ r ∈ rs, r.number ≠ n) :
    rs.filter (fun r => r.number == n) = [] := by
  apply List.filter_eq_nil_iff.mpr
  intro r hr
  simpa using h r hr

lemma length_filter_number {rs : List (Report Path)} {n : ℕ} (h : rs.Pairwise (fun r r' => r.number < r'.number))
    (hn : ∃ r ∈ rs, r.number = n) : (rs.filter (fun r => r.number == n)).length = 1 := by
  induction rs with
  | nil =>
    obtain ⟨r, hr, -⟩ := hn
    cases hr
  | cons r rs ih =>
    obtain ⟨hlt, h⟩ := List.pairwise_cons.mp h
    by_cases hr : r.number = n
    · rw [List.filter_cons_of_pos (by simpa using hr), filter_number_lt, List.length_singleton]
      intro r' hr' hn'
      have := hlt r' hr'
      omega
    · rw [List.filter_cons_of_neg (by simpa using hr)]
      obtain ⟨r', hr', hn'⟩ := hn
      rcases List.mem_cons.mp hr' with rfl | hr'
      · exact absurd hn' hr
      · exact ih h ⟨r', hr', hn'⟩

/-- After `finish` has returned true nothing more is recorded or begun; the recording is told of at most once, not
before its outcome is known, and as saved only if all of it went to the recorder. -/
theorem recording_finished (es es' : List (EncoderEvent Path)) (path : Path) (file : PcmFile)
    (hp : (Encoding.run es).encoder.path = some path) (h : ((Encoding.run es).encoder.finish file).2 = true) :
    (Encoding.run (es ++ .finish file :: es')).recorded = (Encoding.run es).recorded ∧
    (Encoding.run (es ++ .finish file :: es')).begun =
      (Encoding.run es).begun ++ [(path, (Encoding.run es).recorded)] ∧
    ∃ job, (Encoding.run (es ++ .finish file :: es')).encoder.job = some job ∧
      ((Encoding.run (es ++ .finish file :: es')).reports.filter
        (fun r => r.number == (Encoding.run es).begun.length)).length =
        (if job.completed = true ∧ job.finished = none then 1 else 0) ∧
      (job.completed = false → job.timeout = true) ∧
      ∀ r ∈ (Encoding.run (es ++ .finish file :: es')).reports, r.number = (Encoding.run es).begun.length →
        r.path = path ∧ (r.success = true →
          r.taken = stream (Encoding.run (es ++ .finish file :: es')).encoder.format (Encoding.run es).recorded ∨
          .errorOccurred [] ∈ es ++ .finish file :: es') := by
  have hclosed := (Encoding.closed_finish hp h).after es'
  have hrun : Encoding.run (es ++ .finish file :: es') =
      after Encoding.step ((Encoding.run es).finish file) es' := after_append
  rw [← hrun] at hclosed
  have hs : (Encoding.run (es ++ .finish file :: es')).Sound (.errorOccurred [] ∈ es ++ .finish file :: es') :=
    Encoding.sound_run id
  generalize Encoding.run (es ++ .finish file :: es') = y at hclosed hs ⊢
  obtain ⟨job, hj⟩ := Option.isSome_iff_exists.mp hclosed.job
  refine ⟨hclosed.recorded, hclosed.begun, job, hj, ?_, fun hc => ((hs.job job hj).stands.waits hc).1, ?_⟩
  · have hcurrent := hs.job job hj
    have hlen : y.begun.length = (Encoding.run es).begun.length + 1 := by rw [hclosed.begun, List.length_append]; rfl
    by_cases hu : job.Untold
    · rw [if_neg (fun ht => Job.not_untold_iff.mpr ht hu), filter_number_lt]
      · rfl
      · intro r hr
        have := hcurrent.untold hu r hr
        omega
    · rw [if_pos (Job.not_untold_iff.mp hu)]
      obtain ⟨r, hr, hn⟩ := hcurrent.told hu
      exact length_filter_number hs.once ⟨r, hr, by omega⟩
  · intro r hr hn
    obtain ⟨-, snapshot, hb, -, hsent⟩ := hs.reports r hr
    rw [hclosed.begun, hn, List.getElem?_concat_length] at hb
    obtain ⟨rfl, rfl⟩ := Prod.mk.inj (Option.some.inj hb)
    exact ⟨rfl, hsent⟩

theorem recording_finished_frame :
    (Encoding.run ([.start 0 16000 1 .ready, .write [1, 2] 2] ++ .finish {} :: [.write [3, 4] 2])).recorded =
      (Encoding.run [.start 0 16000 1 .ready, .write [1, 2] 2] : Encoding ℕ).recorded :=
  (recording_finished _ _ 0 {} (by decide) (by decide)).1

/-! ### The encoder as the recorder knows it -/

inductive EncoderMove
  | writeData (captured : ℕ)
  | encode (path : Voice.VoiceFile) (outcome : Voice.Encode)
  | encodingFinished (error : QString)
  deriving DecidableEq

structure Summary where
  encoder : Voice.M4aEncoder := {}
  begun : List Voice.VoiceFile := []
  reports : List (Voice.VoiceFile × Bool) := []
  deriving DecidableEq

def Summary.step (a : Summary) : EncoderMove → Summary
  | .writeData captured => { a with encoder.captured := a.encoder.captured + captured }
  | .encode path outcome =>
    let (encoder, encoding) := a.encoder.encode path outcome
    { a with encoder := encoder, begun := if encoding then a.begun ++ [path] else a.begun }
  | .encodingFinished error =>
    match a.encoder.job with
    | none => a
    | some path =>
      { a with
        encoder := { a.encoder with
          job := none
          errorString := if error.isEmpty then a.encoder.errorString else error }
        reports := a.reports ++ [(path, error.isEmpty)] }

def M4aEncoder.encoding (e : M4aEncoder Path) : Option Path :=
  match e.job with
  | some job => if job.completed = true ∧ job.finished = none then none else some job.path
  | none => none

/-- `a` sums up `x`: its PCM in milliseconds, its encodings and what was told of them. -/
structure Summarizes (a : Summary) (x : Encoding Voice.VoiceFile) : Prop where
  captured : a.encoder.captured = x.encoder.format.durationForBytes x.encoder.pcmBytes / 1000
  job : a.encoder.job = x.encoder.encoding
  begun : a.begun = x.begun.map Prod.fst
  reports : a.reports = x.reports.map (fun r => (r.path, r.success))
  empty : x.encoder.path = none → x.encoder.pcmBytes = 0

section

variable {a : Summary} {x : Encoding Voice.VoiceFile} {format : QAudioFormat} {n m : ℕ}

lemma durationForBytes_mono (h : n ≤ m) : format.durationForBytes n ≤ format.durationForBytes m :=
  Nat.div_le_div_right (Nat.mul_le_mul_left _ (Nat.div_le_div_right h))

lemma durationForBytes_zero : format.durationForBytes 0 = 0 := by simp [QAudioFormat.durationForBytes]

lemma summarizes_new : Summarizes {} {} := ⟨by simp [durationForBytes_zero], rfl, rfl, rfl, fun _ => rfl⟩

lemma Summarizes.setErrorString (h : Summarizes a x) (error : QString) :
    Summarizes a { x with encoder := x.encoder.setErrorString error } :=
  ⟨h.captured, h.job, h.begun, h.reports, h.empty⟩

lemma Summarizes.start (h : Summarizes a x) (path : Voice.VoiceFile) (sampleRate channels : ℤ) (backend : Backend) :
    Summarizes a { x with encoder := (x.encoder.start path sampleRate channels backend).1 } := by
  unfold M4aEncoder.start
  split_ifs with hc
  · exact h.setErrorString _
  · have hp : x.encoder.path = none := by
      rw [← Option.not_isSome_iff_eq_none]
      tauto
    have hcaptured := h.captured
    rw [h.empty hp, durationForBytes_zero] at hcaptured
    cases backend with
    | unsupported => exact h.setErrorString _
    | cannotOpen error =>
      refine ⟨?_, h.job, h.begun, h.reports, nofun⟩
      change a.encoder.captured = QAudioFormat.durationForBytes _ x.encoder.pcmBytes / 1000
      rw [h.empty hp, durationForBytes_zero, hcaptured]
    | ready =>
      refine ⟨?_, h.job, h.begun, h.reports, nofun⟩
      change a.encoder.captured = QAudioFormat.durationForBytes _ x.encoder.pcmBytes / 1000
      rw [h.empty hp, durationForBytes_zero, hcaptured]

lemma Summarizes.write (h : Summarizes a x) (ho : x.encoder.isOpen = true → x.encoder.path.isSome = true)
    (data : List UInt8) (stored : ℕ) : ∃ captured, Summarizes (a.step (.writeData captured)) (x.write data stored) := by
  unfold Encoding.write M4aEncoder.write
  split_ifs with hopen hf hs
  · exact ⟨0, (h.setErrorString _).captured, h.job, h.begun, h.reports, h.empty⟩
  · exact ⟨0, h.captured, h.job, h.begun, h.reports, h.empty⟩
  · have hmono : x.encoder.format.durationForBytes x.encoder.pcmBytes / 1000 ≤
        x.encoder.format.durationForBytes (x.encoder.pcmBytes + data.length) / 1000 :=
      Nat.div_le_div_right (durationForBytes_mono (Nat.le_add_right x.encoder.pcmBytes data.length))
    refine ⟨x.encoder.format.durationForBytes (x.encoder.pcmBytes + data.length) / 1000 - a.encoder.captured,
      ?_, h.job, h.begun, h.reports, fun hp => ?_⟩
    · change a.encoder.captured + _ = x.encoder.format.durationForBytes (x.encoder.pcmBytes + data.length) / 1000
      rw [← h.captured] at hmono
      exact Nat.add_sub_cancel' hmono
    · have := ho hopen
      rw [show x.encoder.path = none from hp] at this
      cases this
  · exact ⟨0, h.captured, h.job, h.begun, h.reports, h.empty⟩

lemma Summarizes.encode (h : Summarizes a x) (path : Voice.VoiceFile) (file : PcmFile) :
    ∃ outcome, Summarizes (a.step (.encode path outcome)) (x.began path (x.encoder.encode path file)) := by
  rcases Encoding.encode_cases path file x.encoder with ⟨error, he⟩ | ⟨error, he⟩ | ⟨he, -⟩
  · rw [he]
    exact ⟨.refused error, h.captured, h.job, h.begun, h.reports, h.empty⟩
  · rw [he]
    exact ⟨.unreadable error, h.captured, rfl, h.begun, h.reports, h.empty⟩
  · rw [he]
    refine ⟨.started, h.captured, rfl, ?_, h.reports, h.empty⟩
    change a.begun ++ [path] = (x.begun ++ [(path, x.recorded)]).map Prod.fst
    rw [h.begun, List.map_append]
    rfl

lemma Summarizes.finish (h : Summarizes a x) (file : PcmFile) :
    ∃ moves, Summarizes (Reactive.after Summary.step a moves) (x.finish file) := by
  unfold Encoding.finish M4aEncoder.finish
  cases hp : x.encoder.path with
  | none => exact ⟨[], h.setErrorString _⟩
  | some path =>
    dsimp only
    obtain ⟨outcome, ho⟩ := h.encode path file
    refine ⟨[.encode path outcome], ?_⟩
    cases hc : (x.encoder.encode path file).2 with
    | false =>
      rw [if_neg Bool.false_ne_true]
      rw [Encoding.began, hc] at ho
      exact ho
    | true =>
      rw [if_pos rfl]
      rw [Encoding.began, hc] at ho
      exact ⟨ho.captured, ho.job, ho.begun, ho.reports, ho.empty⟩

lemma Summarizes.onJob (h : Summarizes a x) {f : Job Voice.VoiceFile → Job Voice.VoiceFile}
    (hm : ∀ job : Job Voice.VoiceFile, job.Moved True (f job)) :
    Summarizes a { x with encoder := x.encoder.onJob f } := by
  refine ⟨h.captured, h.job.trans ?_, h.begun, h.reports, h.empty⟩
  unfold M4aEncoder.encoding M4aEncoder.onJob
  cases hj : x.encoder.job with
  | none => rfl
  | some job =>
    have hiff := not_congr (hm job).untold_iff
    rw [Job.not_untold_iff, Job.not_untold_iff] at hiff
    simp only [Option.map_some, hiff, (hm job).path]

lemma Summarizes.deliver (h : Summarizes a x) (hcompleted : ∀ job, x.encoder.job = some job → job.finished.isSome →
    job.completed = true) : ∃ moves, Summarizes (Reactive.after Summary.step a moves) x.deliver := by
  unfold Encoding.deliver M4aEncoder.deliver
  cases hj : x.encoder.job with
  | none => exact ⟨[], h⟩
  | some job =>
    dsimp only
    cases hf : job.finished with
    | none => exact ⟨[], h⟩
    | some error =>
      have hc := hcompleted job hj (by rw [hf]; rfl)
      have ha := h.job
      rw [M4aEncoder.encoding, hj] at ha
      dsimp only at ha
      rw [if_neg (by simp [hf])] at ha
      have hstep : a.step (.encodingFinished error) = { a with
          encoder := { a.encoder with
            job := none
            errorString := if error.isEmpty then a.encoder.errorString else error }
          reports := a.reports ++ [(job.path, error.isEmpty)] } := by
        simp only [Summary.step, ha]
      have hjob : M4aEncoder.encoding { x.encoder with job := some { job with finished := none } } = none :=
        if_pos ⟨hc, rfl⟩
      have hreports : a.reports ++ [(job.path, error.isEmpty)] =
          (x.reports ++ [Report.mk (x.begun.length - 1) job.path error.isEmpty job.taken]).map
            (fun r => (r.path, r.success)) := by
        rw [List.map_append, h.reports]
        rfl
      refine ⟨[.encodingFinished error], ?_⟩
      rw [after_cons, after_nil, hstep]
      dsimp only
      split_ifs
      · exact ⟨h.captured, hjob.symm, h.begun, hreports, h.empty⟩
      · exact ⟨h.captured, hjob.symm, h.begun, hreports, h.empty⟩

lemma Summarizes.step (h : Summarizes a x) (hs : x.Sound True) (e : EncoderEvent Voice.VoiceFile) :
    ∃ moves, Summarizes (Reactive.after Summary.step a moves) (x.step e) := by
  cases e with
  | start path sampleRate channels backend => exact ⟨[], h.start path sampleRate channels backend⟩
  | write data stored =>
    obtain ⟨captured, hc⟩ := h.write (fun ho => (hs.opened ho).1) data stored
    exact ⟨[.writeData captured], hc⟩
  | savePreview path file =>
    obtain ⟨outcome, ho⟩ := h.encode path file
    exact ⟨[.encode path outcome], ho⟩
  | finish file => exact h.finish file
  | readyToSendAudioBuffer answers => exact ⟨[], h.onJob (fun job => moved_send answers)⟩
  | errorOccurred error => exact ⟨[], h.onJob (fun job => moved_complete (fun _ => Or.inr trivial))⟩
  | stopped hasContent => exact ⟨[], h.onJob (fun job => moved_onStopped hasContent)⟩
  | timeout => exact ⟨[], h.onJob (fun job => moved_onTimeout)⟩
  | singleShot =>
    refine h.deliver (fun job hj hf => ?_)
    by_contra hc
    rw [((hs.job job hj).stands.waits (by simpa using hc)).2] at hf
    cases hf

lemma Summarizes.after (h : Summarizes a x) (hs : x.Sound True) (es : List (EncoderEvent Voice.VoiceFile)) :
    ∃ moves, Summarizes (Reactive.after Summary.step a moves) (Reactive.after Encoding.step x es) := by
  induction es generalizing a x with
  | nil => exact ⟨[], h⟩
  | cons e es ih =>
    obtain ⟨moves, hm⟩ := h.step hs e
    obtain ⟨moves', hm'⟩ := ih hm (hs.step e (fun _ => trivial))
    refine ⟨moves ++ moves', ?_⟩
    rw [after_append]
    exact hm'

/-- The recorder's model of the encoder simulates the encoder: for every run there are moves of that model that
begin the same encodings, tell the same of each, and have the same PCM and the same encoding under way. -/
theorem encoder_summarized (es : List (EncoderEvent Voice.VoiceFile)) :
    ∃ moves, Summarizes (Reactive.after Summary.step {} moves) (Encoding.run es) :=
  summarizes_new.after Encoding.sound_new es

end

end ChatDesktop.Media
