import BookTheme.Proofs.Settings.Conditions
import Mathlib.Data.List.TakeWhile

/-! # The scheme of the address

The address of the template is made from a base of which only the beginning is checked and only the end is changed:
it loses all its slashes there. The scheme survives that if anything else stands behind it. A base that is a scheme
and slashes is accepted, and loses the slashes of the scheme too.
-/
namespace BookTheme
namespace Source

def withoutSlashes (base : Text) : Text := (base.reverse.dropWhile (· = '/')).reverse

theorem withoutSlashes_append_of_exists (front : Text) {back : Text} (h : ∃ c ∈ back, c ≠ '/') :
    withoutSlashes (front ++ back) = front ++ withoutSlashes back := by
  obtain ⟨c,hm,hc⟩ := h
  have hne : ¬ (back.reverse.dropWhile (· = '/')).isEmpty = true := by
    rw [List.isEmpty_iff, List.dropWhile_eq_nil_iff]
    exact fun hall => hc (by simpa using hall c (List.mem_reverse.mpr hm))
  rw [withoutSlashes, List.reverse_append, List.dropWhile_append, if_neg hne, List.reverse_append,
    List.reverse_reverse, withoutSlashes]

theorem withoutSlashes_append_of_forall (front : Text) {back : Text} (h : ∀ c ∈ back, c = '/') :
    withoutSlashes (front ++ back) = withoutSlashes front := by
  have hall : ∀ c ∈ back.reverse, decide (c = '/') = true :=
    fun c hc => decide_eq_true (h c (List.mem_reverse.mp hc))
  rw [withoutSlashes, List.reverse_append, List.dropWhile_append_of_pos hall, withoutSlashes]

def schemes : List Text := ["https://".toList, "http://".toList]

theorem exists_url_eq (s : Source) : ∃ rest, s.url = withoutSlashes s.apiBase ++ ("/repos/".toList ++ rest) := by
  simp only [url, withoutSlashes, List.append_assoc]
  exact ⟨_,rfl⟩

variable {s : Source} {scheme : Text}

/-- One slash of the scheme is left, the one that the path begins with. -/
theorem broken_prefix_url (hs : scheme ∈ schemes) (h : scheme <+: s.apiBase)
    (hall : ∀ c ∈ s.apiBase.drop scheme.length, c = '/') : scheme.dropLast ++ "repos/".toList <+: s.url := by
  obtain ⟨back,hback⟩ := h
  rw [← hback, List.drop_left] at hall
  obtain ⟨rest,hurl⟩ := s.exists_url_eq
  rw [hurl, ← hback, withoutSlashes_append_of_forall scheme hall]
  have hend : ∀ t ∈ schemes, t.dropLast ++ "repos/".toList = withoutSlashes t ++ "/repos/".toList := by decide
  rw [hend scheme hs, ← List.append_assoc]
  exact List.prefix_append _ _

theorem scheme_prefix_url_iff (hs : scheme ∈ schemes) (h : scheme <+: s.apiBase) :
    scheme <+: s.url ↔ ∃ c ∈ s.apiBase.drop scheme.length, c ≠ '/' := by
  constructor
  · intro hurl
    apply Decidable.byContradiction
    intro hnone
    have hall : ∀ c ∈ s.apiBase.drop scheme.length, c = '/' :=
      fun c hc => Decidable.byContradiction fun hne => hnone ⟨c,hc,hne⟩
    have hbroken := broken_prefix_url hs h hall
    have hle : scheme.length ≤ (scheme.dropLast ++ "repos/".toList).length := by simp; omega
    have hfalse : ∀ t ∈ schemes, ¬ t <+: t.dropLast ++ "repos/".toList := by decide
    exact hfalse scheme hs (List.prefix_of_prefix_length_le hurl hbroken hle)
  · intro hexists
    obtain ⟨back,hback⟩ := h
    rw [← hback, List.drop_left] at hexists
    obtain ⟨rest,hurl⟩ := s.exists_url_eq
    rw [hurl, ← hback, withoutSlashes_append_of_exists scheme hexists, List.append_assoc]
    exact List.prefix_append _ _

theorem scheme_unique {other base : Text} (hs : scheme ∈ schemes) (ho : other ∈ schemes) (h : scheme <+: base)
    (g : other <+: base) : other = scheme := by
  have hapart : ∀ t ∈ schemes, ∀ u ∈ schemes, t <+: u ∨ u <+: t → t = u := by decide
  exact hapart other ho scheme hs (List.prefix_or_prefix_of_prefix g h)

end Source

namespace Settings

/-- The address of the template begins with the scheme of its base exactly if the base has more than slashes behind
the scheme. Otherwise the address begins with a scheme that has lost a slash. -/
theorem url_scheme_iff (s : Settings) :
    (∀ r o, resolved r o = .ok s → s.violation? = none) ∧
    (s.violation? = none → ∃ scheme ∈ Source.schemes, scheme <+: s.source.apiBase ∧
      (∀ other ∈ Source.schemes, other <+: s.source.apiBase → other = scheme) ∧
      (scheme <+: s.source.url ↔ ∃ c ∈ s.source.apiBase.drop scheme.length, c ≠ '/') ∧
      ((∀ c ∈ s.source.apiBase.drop scheme.length, c = '/') →
        scheme.dropLast ++ "repos/".toList <+: s.source.url)) := by
  refine ⟨fun r o => violation?_of_resolved,?_⟩
  intro h
  obtain ⟨scheme,hs,hbase⟩ : ∃ scheme ∈ Source.schemes, scheme <+: s.source.apiBase := by
    rcases violation?_eq_none_iff.mp h .http with hbase | hbase
    · exact ⟨_,List.mem_cons_self,hbase⟩
    · exact ⟨_,List.mem_cons_of_mem _ List.mem_cons_self,hbase⟩
  exact ⟨scheme,hs,hbase,fun other ho => Source.scheme_unique hs ho hbase,
    Source.scheme_prefix_url_iff hs hbase,Source.broken_prefix_url hs hbase⟩

def withAddress (address : String) : Settings :=
  { Default.settings with source := { Default.source with apiBase := address.toList } }

/-- Slashes around a name do no harm, but of slashes alone only one is left. -/
theorem url_slashes : "http://".toList <+: (withAddress "http:///a//").source.url ∧
    "http:/repos/".toList <+: (withAddress "http:////").source.url := by
  have hmem : "http://".toList ∈ Source.schemes := by decide
  constructor
  · obtain ⟨_,_,_,honly,hiff,_⟩ := (url_scheme_iff (withAddress "http:///a//")).2 (by decide +kernel)
    obtain rfl := honly _ hmem (by decide +kernel)
    exact hiff.mpr ⟨'a',by decide +kernel,by decide⟩
  · obtain ⟨_,_,_,honly,_,hbroken⟩ := (url_scheme_iff (withAddress "http:////")).2 (by decide +kernel)
    obtain rfl := honly _ hmem (by decide +kernel)
    have hslashes : (withAddress "http:////").source.apiBase.drop "http://".toList.length = ['/','/'] := by decide
    apply hbroken
    rw [hslashes]
    simp

/-- A scheme with nothing behind it can be given on the command line and is accepted, and no address comes of it. -/
theorem bareScheme_accepted : ∃ o s, CommandLine.parse ["--api-base".toList,"https://".toList] = .ok o ∧
    resolved (Rehearsal.of ⟨[],[]⟩ fun _ _ => .noReply []) o = .ok s ∧ s.violation? = none ∧
    "https://".toList <+: s.source.apiBase ∧ ∀ scheme ∈ Source.schemes, ¬ scheme <+: s.source.url :=
  ⟨_,withAddress "https://",rfl,rfl,by decide +kernel,by decide,by decide +kernel⟩

end Settings
end BookTheme
