import ShaperDash.Dashboard
import ShaperDash.Proofs.Json.Closed

/-!
# Exports that are read while they are written

A reader that looks at the export of the shaper too early finds the beginning of a document.  The
main statement says that this is never taken for a shorter document.

* `Status.reader_closed` : the reader of a status knows where to stop.
* `FileTree.readText_of_torn` : the text of a file that holds the first bytes of a document, if it
  has one, is what the document starts with.
* `Status.refuses_torn_documents` : **a torn document is refused**, and so is a document with
  something behind it; a dashboard that comes upon a torn document keeps its status.
-/

namespace ShaperDash

open Json

/-! ### The reader of a status -/

theorem HostCounts.reader_closed : HostCounts.reader.Closed :=
  (Reader.pair_closed Reader.word32_continues Reader.word32_continues).map _

theorem HostStats.reader_closed : HostStats.record.reader.Closed := by
  have rates := Reader.pair_closed Reader.word64_continues Reader.word64_continues
  refine Record.reader_closed fun f hf => ?_
  simp only [HostStats.record, List.mem_cons, List.not_mem_nil, or_false] at hf
  obtain rfl | rfl | rfl := hf
  · exact Field.of_continues Reader.text_continues
  · exact Field.of_continues rates.continues
  · exact Field.of_continues Reader.single_continues

theorem Status.reader_closed : Status.record.reader.Closed := by
  have hosts := Reader.list_closed HostStats.reader_closed.continues
  refine Record.reader_closed fun f hf => ?_
  simp only [Status.record, List.mem_cons, List.not_mem_nil, or_false] at hf
  obtain rfl | rfl | rfl | rfl := hf
  · exact Field.of_continues HostCounts.reader_closed.continues
  · exact Field.of_continues Reader.boolean_continues
  · exact Field.of_continues hosts.continues
  · exact Field.of_continues hosts.continues

/-! ### Bytes -/

/-- A file that has a text holds exactly the bytes of the text. -/
theorem FileTree.toUTF8_of_readText {files : FileTree} {path text : String} {bytes : ByteArray}
    (hb : files.readBytes path = .ok bytes) (h : files.readText path = .ok text) :
    text.toUTF8 = bytes := by
  simp only [FileTree.readText, hb] at h
  split at h
  · next t ht =>
    cases h
    unfold String.fromUTF8? at ht
    split_ifs at ht
    cases ht
    rfl
  · -- bytes that end within a character are no text
    simp at h

/-- A text whose bytes are the first of a document is what the document starts with. -/
theorem exists_append_of_toUTF8 {text document : String} {cutOff : ByteArray}
    (h : document.toUTF8 = text.toUTF8 ++ cutOff) :
    ∃ rest : String, document = text ++ rest ∧ rest.toUTF8 = cutOff := by
  have hp : text.toList <+: document.toList := by
    refine List.isPrefix_of_utf8Encode_append_eq_utf8Encode cutOff ?_
    simpa using h.symm
  obtain ⟨rest, hrest⟩ := hp
  have hd : document = text ++ String.ofList rest := by
    rw [← String.toList_inj, String.toList_append, String.toList_ofList, hrest]
  refine ⟨String.ofList rest, hd, ?_⟩
  rw [hd, String.toUTF8_eq_toByteArray, String.toByteArray_append] at h
  exact (ByteArray.append_right_inj _).1 h

/-- The bytes of a blank text are blanks. -/
theorem isBlank_of_mem_toUTF8 {text : String} (h : ∀ c ∈ text.toList, isBlank c) {b : UInt8}
    (hb : b ∈ text.toUTF8.data.toList) : isBlank (Char.ofNat b.toNat) := by
  rw [String.toUTF8_eq_toByteArray, ← String.utf8Encode_toList] at hb
  obtain ⟨c, hc, hbc⟩ : ∃ c ∈ text.toList, b ∈ String.utf8EncodeChar c := by
    simpa [List.utf8Encode] using hb
  have hc := h c hc
  simp only [isBlank, Bool.or_eq_true, decide_eq_true_eq] at hc
  -- each blank is one byte
  obtain ((rfl | rfl) | rfl) | rfl := hc <;>
    (simp [String.utf8EncodeChar] at hbc; subst hbc; decide)

/-- The bytes are the beginning of a document, which may end within a character, and more than
blanks is missing behind them, the last bracket for one. -/
def TornFrom (document : String) (bytes : ByteArray) : Prop :=
  ∃ cutOff : ByteArray, document.toUTF8 = bytes ++ cutOff ∧
    ∃ b ∈ cutOff.data.toList, isBlank (Char.ofNat b.toNat) = false

/-- The text of a file that is torn from a document lacks more than blanks of it. -/
theorem FileTree.readText_of_torn {files : FileTree} {path document text : String}
    {bytes : ByteArray} (hb : files.readBytes path = .ok bytes) (ht : TornFrom document bytes)
    (h : files.readText path = .ok text) :
    ∃ rest : String, document = text ++ rest ∧ ∃ c ∈ rest.toList, isBlank c = false := by
  obtain ⟨cutOff, hd, b, hbc, hblank⟩ := ht
  rw [← FileTree.toUTF8_of_readText hb h] at hd
  obtain ⟨rest, hrest, rfl⟩ := exists_append_of_toUTF8 hd
  refine ⟨rest, hrest, ?_⟩
  -- if only blanks were missing, only bytes of blanks would have been cut off
  by_contra hall
  push Not at hall
  have := isBlank_of_mem_toUTF8 (fun c hc => by simpa using hall c hc) hbc
  simp [hblank] at this

/-! ### Torn documents -/

namespace Status

variable {document : String} {s : Status}

theorem error_of_forall_ne {x : Except DecodeError Status} (h : ∀ s, x ≠ .ok s) :
    ∃ e, x = .error e := by
  cases x with
  | error e => exact ⟨e, rfl⟩
  | ok s => exact absurd rfl (h s)

theorem decode_append_ne_ok (h : Status.decode document = .ok s) {addition : String}
    (ha : ∃ c ∈ addition.toList, isBlank c = false) (t : Status) :
    Status.decode (document ++ addition) ≠ .ok t := by
  intro ht
  obtain ⟨c, hc, hblank⟩ := ha
  have := (reader_closed.decode_append_iff h).1 ht
  simp [this.2 c hc] at hblank

theorem decode_start_ne_ok {start rest : String} (h : Status.decode (start ++ rest) = .ok s)
    (hr : ∃ c ∈ rest.toList, isBlank c = false) (t : Status) : Status.decode start ≠ .ok t :=
  fun ht => decode_append_ne_ok ht hr s h

theorem readStatus_of_torn (h : Status.decode document = .ok s) {files : FileTree} {path : String}
    {bytes : ByteArray} (hb : files.readBytes path = .ok bytes) (ht : TornFrom document bytes) :
    ∃ e, files.readStatus path = .error e := by
  unfold FileTree.readStatus
  cases hread : files.readText path with
  | error e => exact ⟨_, rfl⟩
  | ok text =>
    obtain ⟨rest, rfl, hrest⟩ := FileTree.readText_of_torn hb ht hread
    obtain ⟨e, he⟩ := error_of_forall_ne (decode_start_ne_ok h hrest)
    exact ⟨.malformed path e, by simp [he, Except.mapError]⟩

/-- **A torn document is refused.**  If a document spells a status, no beginning of it that lacks
more than blanks spells any status, and neither does the document with more than blanks behind it.
A dashboard whose poll falls due on a file that holds only the first bytes of such a document, cut
anywhere, keeps everything but the instant of its latest poll. -/
theorem refuses_torn_documents (h : Status.decode document = .ok s) :
    (∀ start rest : String, document = start ++ rest → (∃ c ∈ rest.toList, isBlank c = false) →
      ∃ e, Status.decode start = .error e) ∧
    (∀ addition : String, (∃ c ∈ addition.toList, isBlank c = false) →
      ∃ e, Status.decode (document ++ addition) = .error e) ∧
    ∀ (d : Dashboard) (p : Poller) (files : FileTree) (now : Nat) (bytes : ByteArray),
      d.poller = some p → p.due now = true → files.readBytes p.path = .ok bytes →
      TornFrom document bytes →
      (d.pollStatus files now).1 = { d with poller := some { p with lastPoll := some now } } := by
  refine ⟨?_, ?_, ?_⟩
  · rintro start rest rfl hrest
    exact error_of_forall_ne (decode_start_ne_ok h hrest)
  · intro addition ha
    exact error_of_forall_ne (decode_append_ne_ok h ha)
  · intro d p files now bytes hp hdue hb ht
    obtain ⟨e, he⟩ := readStatus_of_torn h hb ht
    simp [Dashboard.pollStatus, hp, hdue, Poller.poll, he]

/-- A document with a character of two bytes, which is cut after the first of them. -/
theorem refuses_torn_sample :
    let document := "\x7b\"site\":\"Zürich\",\"host_counts\":[5,1]\x7d"
    let files : FileTree := ⟨[(["status.json"], .file (document.toUTF8.extract 0 11))], []⟩
    let d := Dashboard.start { Config.default with statusFile := some "status.json" }
    decode document = .ok ⟨⟨5, 1⟩, false, [], []⟩ ∧
      (∃ e, decode "\x7b\"site\":\"Zürich\",\"host_counts\":[5,1]" = .error e) ∧
      (∃ e, decode (document ++ " \x7b\x7d") = .error e) ∧
      (d.pollStatus files 0).1 =
        { d with poller := some ⟨"status.json", 1000000000, some 0⟩ } := by
  intro document files d
  have h : decode document = .ok ⟨⟨5, 1⟩, false, [], []⟩ :=
    toOption_eq_some_iff.1 (by decide +kernel)
  obtain ⟨hstart, hlonger, hpoll⟩ := refuses_torn_documents h
  refine ⟨h, hstart _ "\x7d" (by decide +kernel) ⟨'}', by decide, by decide⟩,
    hlonger " \x7b\x7d" ⟨'{', by decide, by decide⟩, ?_⟩
  refine hpoll d _ files 0 (document.toUTF8.extract 0 11) rfl (by decide) ?_
    ⟨document.toUTF8.extract 11 document.toUTF8.size, ?_, 0x7d, ?_, by decide⟩
  · rfl
  · decide +kernel
  · decide +kernel

end Status

end ShaperDash
