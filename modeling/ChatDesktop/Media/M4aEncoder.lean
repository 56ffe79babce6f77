import ChatDesktop.Library.Chunks
import ChatDesktop.Voice.VoiceRecorder

namespace ChatDesktop.Media

open Library Library.Chunks Library.Text

abbrev QString := Text

structure QAudioFormat where
  sampleRate : ℕ := 0
  channelCount : ℕ := 0
  deriving DecidableEq, Repr

def QAudioFormat.bytesPerFrame (format : QAudioFormat) : ℕ := 2 * format.channelCount

def QAudioFormat.durationForBytes (format : QAudioFormat) (bytes : ℕ) : ℕ :=
  1000000 * (bytes / format.bytesPerFrame) / format.sampleRate

inductive QAudioBuffer
  | pcm (data : List UInt8) (startTime : ℕ)
  | endOfStream
  deriving DecidableEq, Repr

/-- `finished` is the error of a single shot of `complete` that has not fired, `taken` what the input has
taken. -/
structure Job (Path : Type) where
  path : Path
  limit : ℕ
  position : ℕ := 0
  ended : Bool := false
  completed : Bool := false
  timeout : Bool := true
  finished : Option QString := none
  taken : List QAudioBuffer := []
  deriving DecidableEq, Repr

/-- An encoder of files whose paths, not empty ones, are of the type `Path`. `pcm` is the content of the
file, which may go beyond the bytes counted after a write that failed. -/
structure M4aEncoder (Path : Type) where
  isOpen : Bool := false
  errorString : QString := ofAscii "Unknown error"
  pcm : List UInt8 := []
  format : QAudioFormat := {}
  path : Option Path := none
  pcmBytes : ℕ := 0
  failed : Bool := false
  job : Option (Job Path) := none
  deriving DecidableEq, Repr

structure Answer where
  reads : Bool := true
  takes : Bool := true
  deriving DecidableEq, Repr

/-- How `start` finds its backend and its file. -/
inductive Backend
  | unsupported
  | cannotOpen (error : QString)
  | ready
  deriving DecidableEq, Repr

/-- How `encode` finds the file of PCM. -/
structure PcmFile where
  flushes : Bool := true
  cannotOpen : Option QString := none
  deriving DecidableEq, Repr

variable {Path : Type}

namespace Job

def complete (error : QString) (job : Job Path) : Job Path :=
  if job.completed then job else { job with completed := true, timeout := false, finished := some error }

/-- The loop of `readyToSendAudioBuffer`. The input takes nothing after the last answer. -/
def send (format : QAudioFormat) (pcm : List UInt8) : List Answer → Job Path → Job Path
  | [], job => job
  | answer :: answers, job =>
    if job.ended || job.completed then job
    else if job.position = job.limit then
      if answer.takes then { job with ended := true, taken := job.taken ++ [.endOfStream] } else job
    else
      let bytes := min (job.limit - job.position) (4096 * format.bytesPerFrame)
      let data := if answer.reads then (pcm.drop job.position).take bytes else []
      if data.length ≠ bytes then job.complete (ofAscii "Cannot read captured audio.")
      else if answer.takes then
        send format pcm answers { job with
          position := job.position + bytes
          taken := job.taken ++ [.pcm data (format.durationForBytes job.position)] }
      else job

def onStopped (hasContent : Bool) (job : Job Path) : Job Path :=
  if job.ended then
    job.complete (if hasContent then [] else ofAscii "The M4A encoder produced no audio.")
  else job

def onTimeout (job : Job Path) : Job Path :=
  if job.timeout then job.complete (ofAscii "M4A encoding timed out.") else job

end Job

namespace M4aEncoder

def setErrorString (error : QString) (e : M4aEncoder Path) : M4aEncoder Path :=
  { e with errorString := if error.isEmpty then ofAscii "Unknown error" else error }

def start (path : Path) (sampleRate channels : ℤ) (backend : Backend) (e : M4aEncoder Path) :
    M4aEncoder Path × Bool :=
  if e.isOpen ∨ e.path.isSome ∨ sampleRate ≤ 0 ∨ (channels ≠ 1 ∧ channels ≠ 2) then
    (e.setErrorString (ofAscii "Invalid M4A capture format."), false)
  else
    match backend with
    | .unsupported =>
      (e.setErrorString (ofAscii "AAC/M4A recording is unavailable in this Qt Multimedia backend."), false)
    | .cannotOpen error =>
      ({ e with path := some path, format := ⟨sampleRate.toNat, channels.toNat⟩ }.setErrorString error, false)
    | .ready =>
      ({ e with
          path := some path
          format := ⟨sampleRate.toNat, channels.toNat⟩
          isOpen := true
          errorString := ofAscii "Unknown error" }, true)

/-- `write`; the file takes the first `stored` of the bytes. -/
def write (data : List UInt8) (stored : ℕ) (e : M4aEncoder Path) : M4aEncoder Path × Bool :=
  if e.isOpen then
    if e.failed then (e.setErrorString (ofAscii "Cannot store voice recording audio."), false)
    else if stored < data.length then
      ({ e with pcm := e.pcm ++ data.take stored, failed := true }.setErrorString
        (ofAscii "Cannot store voice recording audio."), false)
    else ({ e with pcm := e.pcm ++ data, pcmBytes := e.pcmBytes + data.length }, true)
  else (e, false)

def encode (path : Path) (file : PcmFile) (e : M4aEncoder Path) : M4aEncoder Path × Bool :=
  if e.isOpen = false ∨ e.failed ∨ e.pcmBytes = 0 ∨ file.flushes = false
      ∨ e.pcmBytes % e.format.bytesPerFrame ≠ 0 then
    (e.setErrorString (ofAscii "The recording contains no complete audio or could not be encoded."), false)
  else
    match file.cannotOpen with
    | some error => ({ e.setErrorString error with job := none }, false)
    | none => ({ e with job := some { path := path, limit := e.pcmBytes } }, true)

def savePreview (path : Path) (file : PcmFile) (e : M4aEncoder Path) : M4aEncoder Path × Bool := e.encode path file

def finish (file : PcmFile) (e : M4aEncoder Path) : M4aEncoder Path × Bool :=
  match e.path with
  | none => (e.setErrorString (ofAscii "The recording contains no complete audio or could not be encoded."), false)
  | some path =>
    let (e₁, encoding) := e.encode path file
    if encoding then ({ e₁ with isOpen := false, errorString := ofAscii "Unknown error" }, true) else (e₁, false)

def deliver (e : M4aEncoder Path) : M4aEncoder Path × Option (Path × Bool) :=
  match e.job with
  | none => (e, none)
  | some job =>
    match job.finished with
    | none => (e, none)
    | some error =>
      let e₁ := { e with job := some { job with finished := none } }
      (if error.isEmpty then e₁ else e₁.setErrorString error, some (job.path, error.isEmpty))

def onJob (f : Job Path → Job Path) (e : M4aEncoder Path) : M4aEncoder Path := { e with job := e.job.map f }

end M4aEncoder

/-! ### What a job sends -/

def blockSize (format : QAudioFormat) : ℕ := 4096 * format.bytesPerFrame

def block (format : QAudioFormat) (snapshot : List UInt8) (i : ℕ) : QAudioBuffer :=
  .pcm (chunk (blockSize format) snapshot i) (format.durationForBytes (i * blockSize format))

def stream (format : QAudioFormat) (snapshot : List UInt8) : List QAudioBuffer :=
  (List.range (count (blockSize format) snapshot)).map (block format snapshot) ++ [.endOfStream]

def Job.Sends (format : QAudioFormat) (snapshot : List UInt8) (job : Job Path) : Prop :=
  if job.ended then job.taken = stream format snapshot
  else ∃ k, k ≤ count (blockSize format) snapshot ∧ job.position = min (k * blockSize format) snapshot.length ∧
    job.taken = (List.range k).map (block format snapshot)

section

variable {format : QAudioFormat} {snapshot pcm : List UInt8} {job : Job Path} {answers : List Answer} {i k : ℕ}

lemma sends_complete (h : job.Sends format snapshot) (error : QString) : (job.complete error).Sends format snapshot := by
  unfold Job.complete
  split_ifs
  · exact h
  · exact h

lemma sends_begun (path : Path) (limit : ℕ) : ({ path := path, limit := limit } : Job Path).Sends format snapshot := by
  refine ⟨0, Nat.zero_le _, ?_, rfl⟩
  rw [Nat.zero_mul, Nat.zero_min]

lemma prefix_range (hk : k ≤ i) : List.range k <+: List.range i := by
  obtain ⟨j, rfl⟩ := Nat.exists_eq_add_of_le hk
  rw [List.range_add]
  exact List.prefix_append _ _

lemma Job.Sends.taken (h : job.Sends format snapshot) : job.taken <+: stream format snapshot := by
  unfold Job.Sends at h
  split_ifs at h with he
  · exact h ▸ List.prefix_rfl
  · obtain ⟨k, hk, -, ht⟩ := h
    rw [ht]
    exact ((prefix_range hk).map _).trans (List.prefix_append _ _)

lemma Job.Sends.position_le (h : job.Sends format snapshot) (hl : job.limit = snapshot.length)
    (he : job.ended = false) : job.position ≤ job.limit := by
  rw [Job.Sends, if_neg (by simp [he])] at h
  obtain ⟨k, -, hp, -⟩ := h
  omega

lemma read_block (hs : snapshot <+: pcm) (hk : k * blockSize format < snapshot.length) :
    (pcm.drop (k * blockSize format)).take (min (snapshot.length - k * blockSize format) (blockSize format)) =
      chunk (blockSize format) snapshot k := by
  obtain ⟨rest, rfl⟩ := hs
  rw [chunk, List.drop_append_of_le_length (Nat.le_of_lt hk), ← List.length_drop, Nat.min_comm,
    List.take_append_of_le_length (Nat.min_le_right _ _), ← List.take_eq_take_min]

lemma sends_block (hs : snapshot <+: pcm) (hl : job.limit = snapshot.length) (hsize : 0 < blockSize format)
    (he : job.ended = false) (h : job.Sends format snapshot) (hp : job.position ≠ job.limit) :
    ({ job with
      position := job.position + min (job.limit - job.position) (blockSize format)
      taken := job.taken ++ [.pcm ((pcm.drop job.position).take (min (job.limit - job.position) (blockSize format)))
        (format.durationForBytes job.position)] } : Job Path).Sends format snapshot := by
  rw [Job.Sends, if_neg (by simp [he])] at h ⊢
  obtain ⟨k, hk, hpos, ht⟩ := h
  have hlt : k * blockSize format < snapshot.length := by omega
  have hpos' : job.position = k * blockSize format := by omega
  refine ⟨k + 1, (lt_count_iff hsize).mpr hlt, ?_, ?_⟩
  · change job.position + min (job.limit - job.position) (blockSize format) = _
    rw [hpos', hl, Nat.succ_mul]
    omega
  · rw [hpos', hl, read_block hs hlt, ht, List.range_succ, List.map_append]
    rfl

lemma sends_end (hsize : 0 < blockSize format) (hl : job.limit = snapshot.length) (he : job.ended = false)
    (h : job.Sends format snapshot) (hp : job.position = job.limit) :
    ({ job with ended := true, taken := job.taken ++ [.endOfStream] } : Job Path).Sends format snapshot := by
  rw [Job.Sends, if_neg (by simp [he])] at h
  obtain ⟨k, hk, hpos, ht⟩ := h
  have hall : k = count (blockSize format) snapshot := by
    refine Nat.le_antisymm hk ((count_le_iff hsize).mpr ?_)
    omega
  rw [Job.Sends, if_pos rfl, ht, hall]
  rfl

lemma sends_send (hf : 0 < format.channelCount) (hs : snapshot <+: pcm) (hl : job.limit = snapshot.length)
    (h : job.Sends format snapshot) : (job.send format pcm answers).Sends format snapshot := by
  have hsize : 0 < blockSize format := by
    simp only [blockSize, QAudioFormat.bytesPerFrame]
    omega
  induction answers generalizing job with
  | nil => exact h
  | cons answer answers ih =>
    unfold Job.send
    by_cases hstop : job.ended || job.completed
    · rw [if_pos hstop]
      exact h
    · rw [if_neg hstop]
      rw [Bool.or_eq_true, not_or, Bool.not_eq_true, Bool.not_eq_true] at hstop
      by_cases hend : job.position = job.limit
      · rw [if_pos hend]
        split_ifs
        · exact sends_end hsize hl hstop.1 h hend
        · exact h
      · rw [if_neg hend]
        dsimp only
        by_cases hr : answer.reads
        · rw [if_pos hr]
          split_ifs
          · exact sends_complete h _
          · exact ih hl (sends_block hs hl hsize hstop.1 h hend)
          · exact h
        · have hpos := h.position_le hl hstop.1
          have hsize' : 0 < 4096 * format.bytesPerFrame := hsize
          have hshort : ([] : List UInt8).length ≠ min (job.limit - job.position) (4096 * format.bytesPerFrame) := by
            rw [List.length_nil]
            omega
          rw [if_neg hr, if_pos hshort]
          exact sends_complete h _

end

/-! ### What the input takes -/

def QAudioBuffer.data : QAudioBuffer → List UInt8
  | .pcm data _ => data
  | .endOfStream => []

section

variable {format : QAudioFormat} {snapshot pcm : List UInt8} {job : Job Path} {k n : ℕ}

lemma blockSize_pos (hf : 0 < format.channelCount) : 0 < blockSize format := by
  simp only [blockSize, QAudioFormat.bytesPerFrame]
  omega

lemma data_stream (hf : 0 < format.channelCount) : (stream format snapshot).flatMap QAudioBuffer.data = snapshot := by
  have hdata : QAudioBuffer.data ∘ block format snapshot = chunk (blockSize format) snapshot := rfl
  rw [stream, List.flatMap_append, List.flatMap_def, List.map_map, hdata, flatten_all (blockSize_pos hf)]
  simp [QAudioBuffer.data]

lemma length_stream : (stream format snapshot).length = count (blockSize format) snapshot + 1 := by simp [stream]

lemma Job.Sends.length_taken (h : job.Sends format snapshot) (he : job.ended = false) :
    job.taken.length ≤ count (blockSize format) snapshot := by
  rw [Job.Sends, if_neg (by simp [he])] at h
  obtain ⟨k, hk, -, ht⟩ := h
  simpa [ht] using hk

lemma Job.Sends.ended_iff (h : job.Sends format snapshot) : job.ended = true ↔ job.taken = stream format snapshot := by
  refine ⟨fun he => ?_, fun ht => ?_⟩
  · rw [Job.Sends, if_pos he] at h
    exact h
  · by_contra hn
    have hlen := h.length_taken (by simpa using hn)
    rw [ht, length_stream] at hlen
    omega

lemma send_taken (hf : 0 < format.channelCount) (hs : snapshot <+: pcm) (hl : job.limit = snapshot.length)
    (h : job.Sends format snapshot) (hc : job.completed = false) :
    (job.send format pcm (List.replicate n {})).taken = (stream format snapshot).take (job.taken.length + n) := by
  induction n generalizing job with
  | zero => exact List.prefix_iff_eq_take.mp h.taken
  | succ n ih =>
    have hsize := blockSize_pos hf
    rw [List.replicate_succ]
    unfold Job.send
    by_cases he : job.ended = true
    · have ht := h.ended_iff.mp he
      rw [if_pos (by simp [he]), ht, List.take_of_length_le (by omega)]
    · rw [Bool.not_eq_true] at he
      rw [if_neg (by simp [he, hc])]
      by_cases hend : job.position = job.limit
      · have hall := (sends_end hsize hl he h hend).ended_iff.mp rfl
        change job.taken ++ [.endOfStream] = _ at hall
        have hlen := congrArg List.length hall
        rw [List.length_append, List.length_singleton] at hlen
        rw [if_pos hend, if_pos rfl, hall, List.take_of_length_le (by omega)]
      · have hpos := h.position_le hl he
        have hpcm := hs.length_le
        have hread : ((pcm.drop job.position).take (min (job.limit - job.position) (blockSize format))).length =
            min (job.limit - job.position) (blockSize format) := by
          rw [List.length_take, List.length_drop]
          omega
        have hnext := @ih { job with
          position := job.position + min (job.limit - job.position) (blockSize format)
          taken := job.taken ++ [.pcm ((pcm.drop job.position).take (min (job.limit - job.position) (blockSize format)))
            (format.durationForBytes job.position)] } hl (sends_block hs hl hsize he h hend) hc
        rw [List.length_append, List.length_singleton, Nat.add_assoc, Nat.add_comm 1 n] at hnext
        rw [if_neg hend]
        dsimp only
        rw [if_pos rfl]
        exact (congrArg Job.taken ((if_neg (not_not.mpr hread)).trans (if_pos rfl))).trans hnext

end

/-! ### What happens to a job -/

/-- What happens to a job: it may be completed, and with an empty error only once it has ended, or if `Q`. -/
structure Job.Moved (Q : Prop) (job job' : Job Path) : Prop where
  path : job'.path = job.path
  limit : job'.limit = job.limit
  ended : job.ended = true → job'.ended = true
  status : (job'.completed = job.completed ∧ job'.timeout = job.timeout ∧ job'.finished = job.finished) ∨
    (job.completed = false ∧ job'.completed = true ∧ job'.timeout = false ∧
      ∃ error, job'.finished = some error ∧ (error = [] → job'.ended = true ∨ Q))

/-- Where a job stands: it waits under its timeout, or its outcome is to be told, or was told. -/
structure Job.Stands (Q : Prop) (job : Job Path) : Prop where
  waits : job.completed = false → job.timeout = true ∧ job.finished = none
  settled : job.completed = true → job.timeout = false
  truthful : job.finished = some [] → job.ended = true ∨ Q

section

variable {Q : Prop} {job job' : Job Path} {format : QAudioFormat} {pcm : List UInt8}

lemma Job.Moved.refl (job : Job Path) : job.Moved Q job := ⟨rfl, rfl, id, Or.inl ⟨rfl, rfl, rfl⟩⟩

lemma moved_complete {error : QString} (h : error = [] → job.ended = true ∨ Q) : job.Moved Q (job.complete error) := by
  unfold Job.complete
  split_ifs with hc
  · exact .refl job
  · refine ⟨rfl, rfl, id, Or.inr ⟨?_, rfl, rfl, error, rfl, h⟩⟩
    simpa using hc

lemma moved_send (answers : List Answer) : job.Moved Q (job.send format pcm answers) := by
  have hread : ofAscii "Cannot read captured audio." = [] → job.ended = true ∨ Q := by
    intro h
    exact absurd h (by decide)
  induction answers generalizing job with
  | nil => exact .refl job
  | cons answer answers ih =>
    unfold Job.send
    by_cases hstop : job.ended || job.completed
    · rw [if_pos hstop]
      exact .refl job
    · rw [if_neg hstop]
      by_cases hend : job.position = job.limit
      · rw [if_pos hend]
        split_ifs
        · exact ⟨rfl, rfl, fun _ => rfl, Or.inl ⟨rfl, rfl, rfl⟩⟩
        · exact .refl job
      · rw [if_neg hend]
        extract_lets bytes data
        by_cases hdata : data.length ≠ bytes
        · rw [if_pos hdata]
          exact moved_complete hread
        · rw [if_neg hdata]
          by_cases ht : answer.takes
          · rw [if_pos ht]
            obtain ⟨hp, hl, he, hs⟩ := @ih { job with
              position := job.position + bytes
              taken := job.taken ++ [.pcm data (format.durationForBytes job.position)] }
              hread
            exact ⟨hp, hl, he, hs⟩
          · rw [if_neg ht]
            exact .refl job

lemma moved_onStopped (hasContent : Bool) : job.Moved Q (job.onStopped hasContent) := by
  unfold Job.onStopped
  split_ifs with he hc
  · exact moved_complete (fun _ => Or.inl he)
  · exact moved_complete (fun _ => Or.inl he)
  · exact .refl job

lemma moved_onTimeout : job.Moved Q job.onTimeout := by
  unfold Job.onTimeout
  split_ifs with ht
  · apply moved_complete
    intro h
    exact absurd h (by decide)
  · exact .refl job

lemma Job.Stands.moved (h : job.Stands Q) (hm : job.Moved Q job') : job'.Stands Q := by
  rcases hm.status with ⟨hc, ht, hf⟩ | ⟨-, hc, ht, error, hf, he⟩
  · refine ⟨?_, ?_, ?_⟩
    · rw [hc, ht, hf]
      exact h.waits
    · rw [hc, ht]
      exact h.settled
    · rw [hf]
      exact fun hf => (h.truthful hf).imp_left hm.ended
  · refine ⟨fun hn => ?_, fun _ => ht, fun hn => ?_⟩
    · rw [hc] at hn
      cases hn
    · rw [hf] at hn
      exact he (Option.some.inj hn)

def Job.Untold (job : Job Path) : Prop := job.completed = false ∨ job.finished.isSome = true

lemma Job.not_untold_iff : ¬job.Untold ↔ job.completed = true ∧ job.finished = none := by simp [Job.Untold]

lemma Job.Moved.untold_iff (hm : job.Moved Q job') : job'.Untold ↔ job.Untold := by
  unfold Job.Untold
  rcases hm.status with ⟨hc, -, hf⟩ | ⟨hc, hc', -, error, hf, -⟩
  · rw [hc, hf]
  · simp [hc, hc', hf]

end

end ChatDesktop.Media
