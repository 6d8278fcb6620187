import BookTheme.Proofs.Contents.Attempts
import BookTheme.Proofs.Contents.Decoding
import BookTheme.Proofs.Json.Layouts
import Mathlib.Data.List.TakeWhile

/-! # A file comes back as it was put in

A text goes into an envelope as the content of a JSON object, in Base64 that may be broken anywhere, next to its
encoding and an address and among whatever else the object holds. If that is the body of the first answer, the
text comes back, with the number of the attempt and with the last segment of the address.
-/
namespace BookTheme.Contents
open Json

inductive EnvelopeField where
  | encoding
  | content
  | gitUrl

namespace Envelope

def layout : Layout record EnvelopeField where
  Value _ := Text
  name
    | .encoding => "encoding"
    | .content => "content"
    | .gitUrl => "git_url"
  read _ := readText
  get
    | .encoding, e => e.encoding
    | .content, e => e.content
    | .gitUrl, e => e.gitUrl
  set
    | .encoding, e, a => { e with encoding := a }
    | .content, e, a => { e with content := a }
    | .gitUrl, e, a => { e with gitUrl := a }
  all := [.encoding, .content, .gitUrl]
  mem_all i := by cases i <;> simp
  members_eq := rfl
  name_inj {i j} h := by
    cases i <;> cases j <;> first | rfl | exact absurd h (by decide)
  get_set_self i _ _ := by cases i <;> rfl
  get_set_of_ne {i j} h _ _ := by
    cases i <;> cases j <;> first | rfl | exact absurd rfl h
  regular _ := regular_readText

/-- A body that holds an envelope: its three members in any order, among others of other names, in an object
with nothing but space around it. -/
inductive Written (e : Envelope) : Bytes → Prop
  | object {ws ws' v encoding content gitUrl : Bytes} {ms extras : List (Text × Bytes)} (hw : Space ws)
      (hw' : Space ws') (hv : ObjectOf ms v)
      (hms : ms.Perm (("encoding".toList,encoding) :: ("content".toList,content) ::
        ("git_url".toList,gitUrl) :: extras))
      (he : Quoted e.encoding encoding) (hc : Quoted e.content content) (hg : Quoted e.gitUrl gitUrl)
      (hx : ∀ m ∈ extras, m.1 ∉ ["encoding".toList, "content".toList, "git_url".toList] ∧ IsValue m.2) :
      Written e (ws ++ (v ++ ws'))

theorem Written.parse {e : Envelope} {body : Bytes} (h : Written e body) : Envelope.parse body = .ok e := by
  obtain @⟨ws,ws',v,encoding,content,gitUrl,ms,extras,hw,hw',hv,hms,he,hc,hg,hx⟩ := h
  have hknown : ∀ m ∈ ms, m = ("encoding".toList,encoding) ∨ m = ("content".toList,content) ∨
      m = ("git_url".toList,gitUrl) ∨ m ∈ extras := by
    intro m hm
    simpa using hms.mem_iff.mp hm
  have hkeys : ∀ m ∈ extras, ∀ i, m.1 ≠ layout.key i := by
    rintro m hm i heq
    apply (hx m hm).1
    rw [heq]
    cases i <;> decide
  have hcount : ∀ i, (ms.map Prod.fst).count (layout.key i) = 1 := by
    intro i
    have hnone : layout.key i ∉ extras.map Prod.fst := by
      intro hi
      obtain ⟨m,hm,hn⟩ := List.mem_map.mp hi
      exact hkeys m hm i hn
    rw [(hms.map Prod.fst).count_eq, List.map_cons, List.map_cons, List.map_cons, List.count_cons,
      List.count_cons, List.count_cons, List.count_eq_zero_of_not_mem hnone]
    cases i <;> rfl
  have hread : ∀ m ∈ ms, IsValue m.2 ∧
      ((∃ i a, m.1 = layout.key i ∧ alone (layout.read i) m.2 = some a ∧ a = layout.get i e) ∨
        record.complete = true ∧ ∀ i, m.1 ≠ layout.key i) := by
    intro m hm
    rcases hknown m hm with rfl | rfl | rfl | hm
    · exact ⟨.text he,.inl ⟨.encoding,_,rfl,(makes_readText he).alone_eq,rfl⟩⟩
    · exact ⟨.text hc,.inl ⟨.content,_,rfl,(makes_readText hc).alone_eq,rfl⟩⟩
    · exact ⟨.text hg,.inl ⟨.gitUrl,_,rfl,(makes_readText hg).alone_eq,rfl⟩⟩
    · exact ⟨(hx m hm).2,.inr ⟨rfl,hkeys m hm⟩⟩
  have hall : ∀ i, layout.key i ∈ ms.map Prod.fst := fun i => List.count_pos_iff.mp ((hcount i).symm ▸ Nat.one_pos)
  obtain ⟨hvalue,y,hy,hgiven,_⟩ := layout.exists_given hv (fun i => Nat.le_of_eq (hcount i)) hread fun _ => hall
  have hsame : y = e := by
    have hfields : ∀ i, layout.get i y = layout.get i e := fun i => hgiven i (hall i)
    obtain ⟨_,_,_⟩ := y
    obtain ⟨_,_,_⟩ := e
    exact (Envelope.mk.injEq ..).mpr ⟨hfields .encoding,hfields .content,hfields .gitUrl⟩
  have hparse : (Envelope.parse (ws ++ (v ++ ws'))).toOption = alone record.read v :=
    Record.toOption_parse layout.regular_record hvalue hw hw'
  rw [hy, hsame] at hparse
  exact toOption_eq_some_iff.mp hparse

/-- The revision is what stands behind the last slash of the address. -/
theorem revision_spec (e : Envelope) :
    '/' ∉ e.revision ∧ (e.gitUrl = e.revision ∨ ∃ front, e.gitUrl = front ++ '/' :: e.revision) := by
  have hsplit := List.takeWhile_append_dropWhile (p := fun c => decide (c ≠ '/')) (l := e.gitUrl.reverse)
  have hurl : e.gitUrl = (e.gitUrl.reverse.dropWhile (· ≠ '/')).reverse ++ e.revision := by
    rw [revision, ← List.reverse_append, hsplit, List.reverse_reverse]
  constructor
  · intro hm
    have hm := List.mem_reverse.mp hm
    simpa using List.mem_takeWhile_imp hm
  · cases hd : e.gitUrl.reverse.dropWhile (· ≠ '/') with
    | nil =>
      rw [hd] at hurl
      exact .inl hurl
    | cons c front =>
      have hc : c = '/' := by
        have h := List.head?_dropWhile_not (fun c => decide (c ≠ '/')) e.gitUrl.reverse
        rw [hd] at h
        simpa using h
      rw [hd, hc, List.reverse_cons, List.append_assoc] at hurl
      exact .inr ⟨front.reverse,hurl⟩

end Envelope

namespace Client

theorem document_of_firstAnswer {r : Rehearsal} {source : Source} {policy : RequestPolicy} {k : Nat} {body : Bytes}
    (hk : k ≤ max 1 policy.maxAttempts.toNat) (hf : FirstAnswer (r.ofAttempt source) k body) {e : Envelope}
    (hp : Envelope.parse body = .ok e) {text : Text} (hd : e.decode = .ok text) :
    ((Rehearsal.client.document source policy).run r).1 = .ok ⟨e.revision,text,k⟩ := by
  obtain ⟨n,h⟩ := exists_stopsAt (fun n => r.outcome (r.requests + n) source) (policy.maxAttempts.toNat - 1)
  obtain ⟨rfl,hb⟩ := h.eq_of_firstAnswer hf (by omega)
  rw [run_document_of_stopsAt r source policy h, hb]
  exact Answer.document_eq_ok_iff.mpr ⟨e,hp,rfl,hd,rfl⟩

/-- If the first answer, within the attempts that are allowed, holds an envelope of a text, the text comes back,
with the number of that attempt and the last segment of the address. -/
theorem document_roundTrip (r : Rehearsal) (source : Source) (policy : RequestPolicy) (text address : Text)
    {pieces : List (Text × Text)} (hpieces : pieces.flatMap Prod.fst = Base64.text (Utf8.encode text))
    (hfillers : ∀ p ∈ pieces, ∀ c ∈ p.2, Envelope.isFiller c = true) {j : Nat}
    (hj : j < max 1 policy.maxAttempts.toNat) {body : Bytes}
    (hbody : Envelope.Written ⟨"base64".toList,Envelope.wrapped pieces,address⟩ body)
    (hanswer : FirstAnswer (r.ofAttempt source) (j + 1) body) :
    ∃ d, ((Rehearsal.client.document source policy).run r).1 = .ok d ∧ d.text = text ∧ d.attempts = j + 1 ∧
      '/' ∉ d.revision ∧ (address = d.revision ∨ ∃ front, address = front ++ '/' :: d.revision) := by
  have hdecode := Envelope.decode_wrapped (e := ⟨"base64".toList,[],address⟩) rfl hfillers hpieces
  have hrun := document_of_firstAnswer hj hanswer hbody.parse hdecode
  obtain ⟨hslash,hend⟩ := Envelope.revision_spec ⟨"base64".toList,Envelope.wrapped pieces,address⟩
  exact ⟨_,hrun,rfl,rfl,hslash,hend⟩

/-- An envelope with its members in another order, and one more. -/
def reorderedBody : Bytes := plainObject [("size".toList,natural 6),("git_url".toList,plainQuoted "a/b".toList),
  ("content".toList,plainQuoted "PG5h dj4K".toList),("encoding".toList,plainQuoted "base64".toList)]

theorem document_thirdAnswers :
    ∃ d, ((Rehearsal.client.document Default.source ⟨7,.ofMillis 5⟩).run
      (Rehearsal.of ⟨[],[]⟩ (thirdAnswers reorderedBody))).1 = .ok d ∧ d.text = "<nav>\n".toList ∧ d.attempts = 3 ∧
      '/' ∉ d.revision ∧ ("a/b".toList = d.revision ∨ ∃ front, "a/b".toList = front ++ '/' :: d.revision) := by
  have hspace : Space [] := by simp [Space]
  have hsize : IsValue (natural 6) := .number (isNumber_natural (.inl rfl) 6)
  have hwritten : Envelope.Written ⟨"base64".toList,Envelope.wrapped [("PG5h".toList,[' ']),("dj4K".toList,[])],
      "a/b".toList⟩ ([] ++ (reorderedBody ++ [])) := by
    have hquoted : ∀ s : Text, Plain s → Quoted s (plainQuoted s) := fun s => Plain.quoted
    have hperm := List.reverse_perm [("encoding".toList,plainQuoted "base64".toList),
      ("content".toList,plainQuoted "PG5h dj4K".toList),("git_url".toList,plainQuoted "a/b".toList),
      ("size".toList,natural 6)]
    apply Envelope.Written.object hspace hspace (objectOf_plain (by decide)) hperm
    · exact hquoted _ (by decide)
    · exact hquoted _ (by decide)
    · exact hquoted _ (by decide)
    · intro m hm
      obtain rfl := List.mem_singleton.mp hm
      exact ⟨by decide,hsize⟩
  rw [List.append_nil, List.nil_append] at hwritten
  apply document_roundTrip (j := 2) _ _ _ _ _ _ _ (by decide) hwritten
  · refine ⟨by decide,?_,204,rfl,by decide,by decide⟩
    rintro j hj hlt ⟨status,body,ho,hlo,hhi⟩
    obtain rfl | rfl : j = 1 ∨ j = 2 := by omega
    · cases ho
      omega
    · cases ho
  · decide
  · simp [Envelope.isFiller]

end Client
end BookTheme.Contents
