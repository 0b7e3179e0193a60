import ShaperDash.Proofs.Json.Members
import ShaperDash.Proofs.Records

/-!
# The shape of settings

A document is settings exactly if the members that it gives have the shape of settings: each known
member at most once and with a value of its type, whatever else is there.

* `Config.Shape` : the members spell the settings; what is not given keeps its default.
* `Config.Says` : the document gives such members.
* `Config.decode_eq_ok_iff` : **a document is decoded as the settings that it says**.
* `Config.says_reordered` : the order of the members does not matter, nor do unknown members.
-/

namespace ShaperDash

open Json

/-- The value is `null`, for none, or a string of the characters of a path. -/
def Json.Value.IsOptionalPath (v : Value) : Option String → Prop
  | none => v = .null
  | some path => v.IsText path

theorem Json.Value.optionalPath?_eq_some_iff {v : Value} {path : Option String} :
    v.optionalPath? = some path ↔ v.IsOptionalPath path := by
  cases v with
  | text us =>
    cases path with
    | none => simp [Value.optionalPath?, Value.IsOptionalPath]
    | some path =>
      have htext : (Value.text us).optionalPath? = (Value.text us).text?.map some := by
        simp [Value.optionalPath?, Value.text?, Function.comp_def]
      simp [htext, Value.text?_eq_some_iff, Value.IsOptionalPath]
  | _ => cases path <;> simp [Value.optionalPath?, Value.IsOptionalPath, Value.IsText]

/-- The value is a string of the keyword of the palette, or an object whose only key is the keyword
and whose value is `null`. -/
def Palette.IsNamedBy (p : Palette) (v : Value) : Prop :=
  ∃ us, Names us p.keyword ∧ (v = .text us ∨ v = .object [(us, .null)])

namespace Palette

variable {v : Value} {p : Palette}

theorem name?_eq_some_iff {us : Units} :
    Value.name? [(regular.keyword, regular), (metaverse.keyword, metaverse)] (.text us) = some p ↔
      Names us p.keyword := by
  have hname : ∀ s : String, [(regular.keyword, regular), (metaverse.keyword, metaverse)].lookup s =
      some p ↔ s = p.keyword := by
    intro s
    by_cases hr : s = regular.keyword
    · subst hr
      cases p <;> simp [keyword]
    by_cases hm : s = metaverse.keyword
    · subst hm
      cases p <;> simp [keyword, List.lookup_cons]
    · have : s ≠ p.keyword := by cases p <;> assumption
      simp [List.lookup_cons, beq_eq_false_iff_ne.2 hr, beq_eq_false_iff_ne.2 hm, this]
  simp only [Value.name?, Option.bind_eq_some_iff, hname, Names]
  constructor
  · rintro ⟨cs, hcs, hs⟩
    rw [hcs, ← hs, String.toList_ofList]
  · exact fun h => ⟨_, h, String.ofList_toList⟩

theorem value?_eq_some_iff : Palette.value? v = some p ↔ p.IsNamedBy v := by
  unfold Palette.value? IsNamedBy Value.variant?
  split
  · simp [name?_eq_some_iff]
  · simp [name?_eq_some_iff]
  · next htext hobject =>
    simp only [reduceCtorEq, false_iff]
    rintro ⟨us, -, rfl | rfl⟩
    · exact htext us rfl
    · exact hobject us rfl

end Palette

namespace Config

variable {ms ms' : List (Units × Value)} {c : Config} {document document' : String}

/-- The members spell the settings: each is given at most once, and one that is not given keeps its
default. -/
structure Shape (ms : List (Units × Value)) (c : Config) : Prop where
  tickMillis : AtMostOnce "tick_ms" ms (c.tickMillis = default.tickMillis) fun v =>
    v.IsNatural c.tickMillis.toNat
  palette : AtMostOnce "palette" ms (c.palette = default.palette) c.palette.IsNamedBy
  statusFile : AtMostOnce "status_file" ms (c.statusFile = default.statusFile) fun v =>
    v.IsOptionalPath c.statusFile
  statusPollSeconds : AtMostOnce "status_poll_secs" ms
    (c.statusPollSeconds = default.statusPollSeconds) fun v =>
      v.IsNatural c.statusPollSeconds.toNat
  historyLength : AtMostOnce "history_len" ms (c.historyLength = default.historyLength) fun v =>
    v.IsNatural c.historyLength.toNat

/-- The document gives members that spell the settings. -/
def Says (document : String) (c : Config) : Prop :=
  ∃ ms, record.GivenBy document ms ∧ Shape ms c

theorem fill_eq : meaning.fill [] ms record.fields record.draft =
    (atMostOnce default.tickMillis Value.word64? (valuesOf "tick_ms" ms)).bind fun tick =>
      (atMostOnce default.palette Palette.value? (valuesOf "palette" ms)).bind fun palette =>
        (atMostOnce default.statusFile Value.optionalPath? (valuesOf "status_file" ms)).bind
          fun file =>
            (atMostOnce default.statusPollSeconds Value.word64?
              (valuesOf "status_poll_secs" ms)).bind fun poll =>
                (atMostOnce default.historyLength Value.word64? (valuesOf "history_len" ms)).bind
                  fun history => some ⟨tick, palette, file, poll, history⟩ := by
  refine (meaning.fill_atMostOnce rfl (fun _ => rfl) ?_).trans (congrArg _ (funext fun tick => ?_))
  · rfl
  refine (meaning.fill_atMostOnce rfl (fun _ => rfl) ?_).trans
    (congrArg _ (funext fun palette => ?_))
  · rfl
  refine (meaning.fill_atMostOnce rfl (fun _ => rfl) ?_).trans (congrArg _ (funext fun file => ?_))
  · rfl
  refine (meaning.fill_atMostOnce rfl (fun _ => rfl) ?_).trans (congrArg _ (funext fun poll => ?_))
  · rfl
  refine (meaning.fill_atMostOnce rfl (fun _ => rfl) ?_).trans
    (congrArg _ (funext fun history => ?_))
  · rfl
  · rfl

theorem fill_eq_some_iff :
    meaning.fill [] ms record.fields record.draft = some c ↔ Shape ms c := by
  simp only [fill_eq, Option.bind_eq_some_iff, atMostOnce_eq_some_iff,
    Value.word64?_eq_some_iff, Palette.value?_eq_some_iff, Value.optionalPath?_eq_some_iff,
    Option.some.injEq]
  constructor
  · rintro ⟨tick, htick, palette, hpalette, file, hfile, poll, hpoll, history, hhistory, rfl⟩
    exact ⟨htick, hpalette, hfile, hpoll, hhistory⟩
  · rintro ⟨htick, hpalette, hfile, hpoll, hhistory⟩
    exact ⟨_, htick, _, hpalette, _, hfile, _, hpoll, _, hhistory, rfl⟩

theorem fields_take : ∀ f ∈ record.fields, f.reader.Takes := by
  simp only [record, List.forall_mem_cons]
  exact ⟨Field.of_takes Reader.word64_takes, Field.of_takes (Reader.variant_takes _),
    Field.of_takes Reader.optionalPath_takes, Field.of_takes Reader.word64_takes,
    Field.of_takes Reader.count_takes, List.forall_mem_nil _⟩

/-- **A document is decoded as the settings that it says**, and a document that says none is
refused. -/
theorem decode_eq_ok_iff : decode document = .ok c ↔ Says document c :=
  (meaning.decode_eq_ok_iff fields_take).trans
    (exists_congr fun _ => and_congr_right fun _ => fill_eq_some_iff)

theorem decode_eq_error_iff : (∃ e, decode document = .error e) ↔ ∀ c, ¬ Says document c := by
  simp only [← decode_eq_ok_iff]
  cases decode document <;> simp

/-- A document says the settings that its members spell, however it spells the members. -/
theorem says_object_iff (hd : (Value.object ms).SpelledBy document) (hp : Paired ms) :
    Says document c ↔ Shape ms c := by
  rw [← decode_eq_ok_iff, ← fill_eq_some_iff, ← meaning.value_object_eq hp]
  exact meaning.reader_denotes.decode_eq_ok_iff hd

theorem Shape.perm (h : Shape ms c)
    (hp : ∀ f ∈ record.fields, (valuesOf f.name ms).Perm (valuesOf f.name ms')) : Shape ms' c := by
  simp only [record, List.forall_mem_cons, Field.of] at hp
  obtain ⟨htick, hpalette, hfile, hpoll, hhistory, -⟩ := hp
  exact ⟨h.tickMillis.perm htick, h.palette.perm hpalette, h.statusFile.perm hfile,
    h.statusPollSeconds.perm hpoll, h.historyLength.perm hhistory⟩

/-- A document with the same members in another order, and with members that nobody asked for among
them, says the same. -/
theorem says_reordered (others : List (Units × Value))
    (hd : (Value.object ms).SpelledBy document) (hd' : (Value.object ms').SpelledBy document')
    (hperm : (others ++ ms).Perm ms') (hp : Paired ms')
    (ho : ∀ m ∈ others, ∀ f ∈ record.fields, ¬ Names m.1 f.name) :
    Says document' c ↔ Says document c := by
  have hp' : Paired ms := fun m hm => hp m (hperm.subset (List.mem_append_right _ hm))
  have hvalues : ∀ f ∈ record.fields, (valuesOf f.name ms).Perm (valuesOf f.name ms') :=
    fun f hf => valuesOf_perm hperm fun m hm => ho m hm f hf
  rw [says_object_iff hd hp', says_object_iff hd' hp]
  exact ⟨fun h => h.perm fun f hf => (hvalues f hf).symm, fun h => h.perm hvalues⟩

end Config

end ShaperDash
