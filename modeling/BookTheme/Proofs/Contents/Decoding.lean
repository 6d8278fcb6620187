import BookTheme.Contents.Envelope
import BookTheme.Proofs.Bytes.Base64

/-! # What an envelope holds

Apart from fillers, a content is read only in the one form that its text is written in. What goes wrong
otherwise tells which part of the form is missing: the encoding's name, the form of the symbols, or that of
the bytes.
-/
namespace BookTheme.Contents.Envelope

def bare (e : Envelope) : Text := e.content.filter (!isFiller ·)

theorem payload_eq_encode_iff {e : Envelope} {bytes : Bytes} :
    e.payload = Base64.encode bytes ↔ e.bare = Base64.text bytes := by
  rw [← Base64.encode_text bytes]
  exact Utf8.encode_inj

/-- The ways to read an envelope, each with what it needs of the encoding and the content. -/
inductive Reading (e : Envelope) : Except DecodeError Text → Prop
  | encoding (he : e.encoding ≠ "base64".toList) : Reading e (.error (.encoding e.encoding))
  | base64 {error : Base64.Error} (he : e.encoding = "base64".toList)
      (hc : ∀ bytes, e.bare ≠ Base64.text bytes) : Reading e (.error (.base64 error))
  | utf8 {error : Utf8.Error} {bytes : Bytes} (he : e.encoding = "base64".toList)
      (hc : e.bare = Base64.text bytes) (hb : ∀ s, bytes ≠ Utf8.encode s) : Reading e (.error (.utf8 error))
  | ok {s : Text} (he : e.encoding = "base64".toList) (hc : e.bare = Base64.text (Utf8.encode s)) :
      Reading e (.ok s)

theorem reading_decode (e : Envelope) : Reading e e.decode := by
  rw [decode]
  split
  case isTrue he => exact .encoding he
  case isFalse he =>
    have he := not_not.mp he
    cases hb : Base64.decode e.payload with
    | error error =>
      refine .base64 he fun bytes hc => ?_
      rw [Base64.decode_eq_ok_iff.mpr (payload_eq_encode_iff.mpr hc)] at hb
      cases hb
    | ok bytes =>
      have hc := payload_eq_encode_iff.mp (Base64.decode_eq_ok_iff.mp hb)
      simp only
      cases hs : Utf8.decode bytes with
      | error error =>
        refine .utf8 he hc fun s hs' => ?_
        rw [Utf8.decode_eq_ok_iff.mpr hs'] at hs
        cases hs
      | ok s =>
        rw [Utf8.decode_eq_ok_iff.mp hs] at hc
        exact .ok he hc

theorem decode_eq_ok_iff {e : Envelope} {s : Text} :
    e.decode = .ok s ↔ e.encoding = "base64".toList ∧ e.bare = Base64.text (Utf8.encode s) := by
  have h := reading_decode e
  generalize e.decode = result at h
  constructor
  · rintro rfl
    cases h with
    | ok he hc => exact ⟨he,hc⟩
  · rintro ⟨he,hc⟩
    cases h with
    | encoding he' => exact absurd he he'
    | base64 _ hc' => exact absurd hc (hc' _)
    | utf8 _ hc' hb => exact absurd (Base64.text_inj.mp (hc'.symm.trans hc)) (hb s)
    | ok _ hc' => rw [Utf8.encode_inj.mp (Base64.text_inj.mp (hc'.symm.trans hc))]

theorem decode_eq_encoding_iff {e : Envelope} {given : Text} :
    e.decode = .error (.encoding given) ↔ e.encoding ≠ "base64".toList ∧ given = e.encoding := by
  have h := reading_decode e
  generalize e.decode = result at h
  constructor
  · rintro rfl
    cases h with
    | encoding he => exact ⟨he,rfl⟩
  · rintro ⟨he,rfl⟩
    cases h with
    | encoding => rfl
    | base64 he' | utf8 he' | ok he' => exact absurd he' he

theorem decode_eq_utf8_iff {e : Envelope} : (∃ error, e.decode = .error (.utf8 error)) ↔
    e.encoding = "base64".toList ∧ ∃ bytes, e.bare = Base64.text bytes ∧ ∀ s, bytes ≠ Utf8.encode s := by
  have h := reading_decode e
  generalize e.decode = result at h
  constructor
  · rintro ⟨error,rfl⟩
    cases h with
    | utf8 he hc hb => exact ⟨he,_,hc,hb⟩
  · rintro ⟨he,bytes,hc,hb⟩
    cases h with
    | encoding he' => exact absurd he he'
    | base64 _ hc' => exact absurd hc (hc' bytes)
    | utf8 => exact ⟨_,rfl⟩
    | ok _ hc' => exact absurd (Base64.text_inj.mp (hc.symm.trans hc')) (hb _)

theorem decode_eq_base64_iff {e : Envelope} : (∃ error, e.decode = .error (.base64 error)) ↔
    e.encoding = "base64".toList ∧ ∀ bytes, e.bare ≠ Base64.text bytes := by
  have h := reading_decode e
  generalize e.decode = result at h
  constructor
  · rintro ⟨error,rfl⟩
    cases h with
    | base64 he hc => exact ⟨he,hc⟩
  · rintro ⟨he,hc⟩
    cases h with
    | encoding he' => exact absurd he he'
    | base64 => exact ⟨_,rfl⟩
    | utf8 _ hc' | ok _ hc' => exact absurd hc' (hc _)

/-! ## Wrapping -/

/-- Pieces of a text, each with what stands behind it. -/
def wrapped (pieces : List (Text × Text)) : Text := pieces.flatMap fun p => p.1 ++ p.2

theorem not_isFiller_of_mem {bytes : Bytes} {c : Char} (h : c ∈ Base64.text bytes) : (!isFiller c) = true := by
  have hs : ∀ n < 64, (!isFiller (.ofNat (Base64.symbol n).toNat)) = true := by decide
  obtain ⟨b,hb,rfl⟩ := List.mem_map.mp h
  rcases Base64.eq_pad_or_symbol_of_mem hb with rfl | ⟨n,hn,rfl⟩
  · decide
  · exact hs n hn

theorem filter_wrapped {pieces : List (Text × Text)} (h : ∀ p ∈ pieces, ∀ c ∈ p.2, isFiller c = true) :
    (wrapped pieces).filter (!isFiller ·) = (pieces.flatMap Prod.fst).filter (!isFiller ·) := by
  induction pieces with
  | nil => rfl
  | cons p pieces ih =>
    have hp : p.2.filter (!isFiller ·) = [] := by
      rw [List.filter_eq_nil_iff]
      intro c hc
      simp [h p List.mem_cons_self c hc]
    have ih := ih fun q hq => h q (List.mem_cons_of_mem _ hq)
    rw [wrapped] at ih ⊢
    rw [List.flatMap_cons, List.flatMap_cons, List.filter_append, List.filter_append, List.filter_append, hp,
      List.append_nil, ih]

theorem decode_wrapped {e : Envelope} {s : Text} {pieces : List (Text × Text)}
    (he : e.encoding = "base64".toList) (hf : ∀ p ∈ pieces, ∀ c ∈ p.2, isFiller c = true)
    (hs : pieces.flatMap Prod.fst = Base64.text (Utf8.encode s)) :
    { e with content := wrapped pieces }.decode = .ok s := by
  refine decode_eq_ok_iff.mpr ⟨he,?_⟩
  rw [bare, filter_wrapped hf, hs, List.filter_eq_self]
  exact fun c => not_isFiller_of_mem

theorem isFiller_iff {c : Char} : isFiller c = true ↔ c ∈ [' ','\t','\n','\x0c','\r'] := by
  simp [isFiller, or_assoc]

theorem bare_eq_filter (e : Envelope) : e.bare = e.content.filter (· ∉ [' ','\t','\n','\x0c','\r']) := by
  apply List.filter_congr
  intro c _
  rw [Bool.eq_iff_iff, decide_eq_true_iff, ← isFiller_iff, Bool.not_eq_true', Bool.not_eq_true]

/-- Without its blanks, tabs, line feeds, form feeds and carriage returns, a text is read exactly from the one form that
it is written in, however wrapped; and a refusal names what differs from that form. -/
theorem decode_canonical (e : Envelope) :
    let fillers : List Char := [' ','\t','\n','\x0c','\r']
    let bare := fun e : Envelope => e.content.filter (· ∉ fillers)
    (∀ s, e.decode = .ok s ↔ e.encoding = "base64".toList ∧ bare e = Base64.text (Utf8.encode s)) ∧
    (∀ s pieces, e.encoding = "base64".toList → (∀ p ∈ pieces, ∀ c ∈ p.2, c ∈ fillers) →
      pieces.flatMap Prod.fst = Base64.text (Utf8.encode s) →
      { e with content := wrapped pieces }.decode = .ok s) ∧
    (∀ s (e' : Envelope), e.decode = .ok s → e'.decode = .ok s → bare e = bare e') ∧
    (∀ given, e.decode = .error (.encoding given) ↔ e.encoding ≠ "base64".toList ∧ given = e.encoding) ∧
    ((∃ error, e.decode = .error (.utf8 error)) ↔ e.encoding = "base64".toList ∧
      ∃ bytes, bare e = Base64.text bytes ∧ ∀ s, bytes ≠ Utf8.encode s) ∧
    ((∃ error, e.decode = .error (.base64 error)) ↔ e.encoding = "base64".toList ∧
      ∀ bytes, bare e ≠ Base64.text bytes) := by
  intro fillers bare
  have hbare : bare = Envelope.bare := funext fun e => (bare_eq_filter e).symm
  rw [hbare]
  refine ⟨fun s => decode_eq_ok_iff,?_,?_,fun given => decode_eq_encoding_iff,decode_eq_utf8_iff,
    decode_eq_base64_iff⟩
  · intro s pieces he hf
    exact decode_wrapped he fun p hp c hc => isFiller_iff.mpr (hf p hp c hc)
  · intro s e' h h'
    exact (decode_eq_ok_iff.mp h).2.trans (decode_eq_ok_iff.mp h').2.symm

/-- Each filler may stand anywhere. A vertical tab is none, and what holds one is the form of no bytes; nor are symbols
without their padding. Bytes that are no text have a form of their own. -/
theorem decode_fillers :
    decode ⟨"base64".toList,"\tZ m\n8\x0c=\r\n".toList,[]⟩ = .ok "fo".toList ∧
    (∀ bytes, "Zm8=\x0b".toList ≠ Base64.text bytes) ∧ (∀ bytes, "Zm8".toList ≠ Base64.text bytes) ∧
    (∃ bytes, "/w==".toList = Base64.text bytes ∧ ∀ s, bytes ≠ Utf8.encode s) ∧
    decode ⟨"BASE64".toList,"Zm8=".toList,[]⟩ = .error (.encoding "BASE64".toList) := by
  obtain ⟨hok,_⟩ := decode_canonical ⟨"base64".toList,"\tZ m\n8\x0c=\r\n".toList,[]⟩
  obtain ⟨_,_,_,_,_,hstray⟩ := decode_canonical ⟨"base64".toList,"Zm8=\x0b".toList,[]⟩
  obtain ⟨_,_,_,_,_,hshort⟩ := decode_canonical ⟨"base64".toList,"Zm8".toList,[]⟩
  obtain ⟨_,_,_,_,hbytes,_⟩ := decode_canonical ⟨"base64".toList,"/w==".toList,[]⟩
  obtain ⟨_,_,_,hencoding,_⟩ := decode_canonical ⟨"BASE64".toList,"Zm8=".toList,[]⟩
  refine ⟨(hok _).mpr ⟨rfl,by decide⟩,(hstray.mp ⟨_,rfl⟩).2,(hshort.mp ⟨_,rfl⟩).2,(hbytes.mp ⟨_,rfl⟩).2,
    (hencoding _).mpr ⟨by decide,rfl⟩⟩

end BookTheme.Contents.Envelope
