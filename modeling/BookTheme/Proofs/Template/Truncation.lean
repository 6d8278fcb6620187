import BookTheme.Proofs.Template.Failures
import BookTheme.Proofs.Template.Recovery

/-! # Pages cut short

A pass over the first lines of a page stands where the pass over the whole page stood after these lines. The
anchors that the whole pass found below them are those that it still lacks, and the first of these is the one
that it waits for. So a page that is cut above its last anchor is refused, with the phase of the first anchor
that is cut off. What stands below the last anchor goes through, whatever it is.
-/
namespace BookTheme.Template

theorem Phase.all_getElem?_rank (f : Phase) : all[f.rank]? = some f := by cases f <;> rfl

namespace Pass

variable {ins : Insertions} {p q : Pass} {lines : List Text} {m n : Nat}

theorem readLines_append (ins : Insertions) (p : Pass) (above below : List Text) :
    p.readLines ins (above ++ below) = (p.readLines ins above).bind fun q => q.readLines ins below := by
  induction above generalizing p with
  | nil => rfl
  | cons line above ih =>
    rw [List.cons_append, readLines, readLines]
    cases p.readLine ins line with
    | mk q o =>
      cases o with
      | some e => rfl
      | none => exact ih q

theorem eq_readAll_of_readLines (h : start.readLines ins lines = .ok q) : q = readAll ins lines := by
  rw [readLines_eq_trace] at h
  split at h
  · cases h
  · exact (Except.ok.inj h).symm

/-- The anchors of `q` are those of `p` and further ones, below all lines that `p` has read. -/
def Later (p q : Pass) : Prop := ∃ more, q.anchors = p.anchors ++ more ∧ ∀ a ∈ more, p.lineCount < a.line

theorem later_of_readLines (h : p.readLines ins lines = .ok q) : Later p q := by
  induction lines generalizing p with
  | nil =>
    cases h
    exact ⟨[],by simp,by simp⟩
  | cons line rest ih =>
    rw [readLines] at h
    rcases readLine_cases ins p line with ⟨_,hr⟩ | ⟨text,_,_,hr⟩ | ⟨_,_,hr⟩
    · rw [hr] at h
      obtain ⟨more,hq,hm⟩ := ih h
      exact ⟨more,hq,fun a ha => Nat.lt_of_succ_lt (hm a ha)⟩
    · rw [hr] at h
      obtain ⟨more,hq,hm⟩ := ih h
      refine ⟨⟨p.phase,p.lineCount + 1⟩ :: more,by rw [hq, anchors_moved]; simp,?_⟩
      intro a ha
      rcases List.mem_cons.mp ha with rfl | ha
      · exact Nat.lt_succ_self _
      · exact Nat.lt_of_succ_lt (hm a ha)
    · rw [hr] at h
      cases h

/-- What is read up to the line of the last anchor, and no less, brings a pass to its last phase. -/
theorem Later.final_iff (h : Later p q) (hp : p.Recorded m) {a : Anchor} (ha : q.anchors[4]? = some a) :
    p.phase = .afterSidebar ↔ a.line ≤ p.lineCount := by
  obtain ⟨more,hq,hm⟩ := h
  rw [hq] at ha
  have hl := hp.length_anchors
  constructor
  · intro hf
    have hfive := Phase.rank_eq_five_iff.mpr hf
    rw [List.getElem?_append_left (by omega)] at ha
    exact (hp.lines_counted a (List.mem_of_getElem? ha)).2
  · intro hle
    apply Phase.rank_eq_five_iff.mp
    have hr := p.phase.rank_le
    by_contra hne
    rw [List.getElem?_append_right (by omega)] at ha
    have hlt := hm a (List.mem_of_getElem? ha)
    omega

/-- A pass waits for the first anchor that a later one has below its lines. -/
theorem Later.exists_find? (h : Later p q) (hp : p.Recorded m) (hq : q.Recorded n)
    (hpf : p.phase ≠ .afterSidebar) (hqf : q.phase = .afterSidebar) :
    ∃ a, q.anchors.find? (p.lineCount < ·.line) = some a ∧ a.phase = p.phase := by
  obtain ⟨more,hmore,hm⟩ := h
  have hpl := hp.length_anchors
  have hql := hq.length_anchors
  have hlt : p.anchors.length < q.anchors.length := by
    have hr := p.phase.rank_le
    have hne : p.phase.rank ≠ 5 := fun he => hpf (Phase.rank_eq_five_iff.mp he)
    have hfive := Phase.rank_eq_five_iff.mpr hqf
    omega
  cases more with
  | nil => simp [hmore] at hlt
  | cons a more =>
    have ha : q.anchors[p.anchors.length]? = some a := by simp [hmore]
    have hphase := hq.phase_getElem? ha
    rw [hpl, Phase.all_getElem?_rank] at hphase
    have hnone : p.anchors.find? (p.lineCount < ·.line) = none := by
      rw [List.find?_eq_none]
      intro b hb
      simpa using (hp.lines_counted b hb).2
    have hline := hm a List.mem_cons_self
    refine ⟨a,?_,(Option.some.inj hphase).symm⟩
    rw [hmore, List.find?_append, hnone, Option.none_or, List.find?_cons_of_pos (by simpa using hline)]

theorem Recorded.exists_last (h : q.Recorded n) (hq : q.phase = .afterSidebar) :
    ∃ last, q.anchors[4]? = some ⟨.inSidebar,last⟩ ∧ 1 ≤ last ∧ last ≤ n := by
  have hlen := h.length_anchors
  rw [Phase.rank_eq_five_iff.mpr hq] at hlen
  obtain ⟨⟨f,last⟩,ha⟩ : ∃ a, q.anchors[4]? = some a := ⟨_,List.getElem?_eq_getElem (by omega)⟩
  obtain rfl : .inSidebar = f := Option.some.inj (h.phase_getElem? ha)
  have hline := h.lines_counted _ (List.mem_of_getElem? ha)
  rw [h.lineCount_eq] at hline
  exact ⟨last,ha,hline⟩

theorem lineCount_readAll_take (ins : Insertions) (lines : List Text) (k : Nat) :
    (readAll ins (lines.take k)).lineCount = min k lines.length :=
  (recorded_readAll ins _).lineCount_eq.trans List.length_take

theorem readLines_take (h : start.readLines ins lines = .ok q) (k : Nat) :
    start.readLines ins (lines.take k) = .ok (readAll ins (lines.take k)) ∧
      (readAll ins (lines.take k)).readLines ins (lines.drop k) = .ok q := by
  rw [← List.take_append_drop k lines, readLines_append] at h
  cases hp : start.readLines ins (lines.take k) with
  | error e =>
    rw [hp] at h
    cases h
  | ok p =>
    rw [hp] at h
    rw [← eq_readAll_of_readLines hp]
    exact ⟨rfl,h⟩

theorem eq_through_of_take (h : start.readLines ins lines = .ok q) {k : Nat}
    (hk : (readAll ins (lines.take k)).phase = .afterSidebar) :
    q = (readAll ins (lines.take k)).through (lines.drop k) := by
  have hq := (readLines_take h k).2
  rw [readLines_final ins hk] at hq
  exact (Except.ok.inj hq).symm

theorem final_take_iff (h : start.readLines ins lines = .ok q) {a : Anchor} (ha : q.anchors[4]? = some a)
    (hl : a.line ≤ lines.length) (k : Nat) :
    (readAll ins (lines.take k)).phase = .afterSidebar ↔ a.line ≤ k := by
  rw [(later_of_readLines (readLines_take h k).2).final_iff (recorded_readAll ins _) ha, lineCount_readAll_take]
  exact Nat.le_min.trans (and_iff_left hl)

/-- What is read of a page that is cut waits for the first anchor that is cut off. -/
theorem exists_find?_of_take (h : start.readLines ins lines = .ok q) (hq : q.phase = .afterSidebar) {k : Nat}
    (hl : k ≤ lines.length) (hk : (readAll ins (lines.take k)).phase ≠ .afterSidebar) :
    ∃ a, q.anchors.find? (k < ·.line) = some a ∧ a.phase = (readAll ins (lines.take k)).phase := by
  have hrec : q.Recorded lines.length := eq_readAll_of_readLines h ▸ recorded_readAll ins lines
  have hf := (later_of_readLines (readLines_take h k).2).exists_find? (recorded_readAll ins _) hrec hk hq
  rwa [lineCount_readAll_take, min_eq_left hl] at hf

end Pass

open Pass

variable {ins : Insertions} {text : Text} {out : Patched}

/-- A page that is patched with its last anchor on line `last` is refused if it is cut above that line, with
the phase of the first anchor that is cut off. Cut below it, the page has the same anchors and becomes the
beginning of what the whole one becomes. If the line has its newline, any text can take the place of what
stands below it, and goes through as it is. -/
theorem truncation_detected (h : patch ins text = .ok out) :
    ∃ last line, out.anchors[4]? = some ⟨.inSidebar,last⟩ ∧ 1 ≤ last ∧ text.pieces[last - 1]? = some line ∧
      (∀ k, k < last → ∃ a, out.anchors.find? (k < ·.line) = some a ∧
        patch ins (text.pieces.take k).flatten = .error (.endedIn a.phase)) ∧
      (∀ k, last ≤ k → ∃ front, patch ins (text.pieces.take k).flatten = .ok ⟨front,out.anchors⟩ ∧
        front <+: out.text) ∧
      ∃ above, out.text = above ++ (text.pieces.drop last).flatten ∧ (['\n'] <:+ line →
        ∀ s, patch ins ((text.pieces.take last).flatten ++ s) = .ok ⟨above ++ s,out.anchors⟩) := by
  obtain ⟨q,hq,hf,rfl⟩ := patch_eq_ok_iff_readLines.mp h
  have hrec : q.Recorded text.pieces.length := eq_readAll_of_readLines hq ▸ recorded_readAll ins _
  obtain ⟨last,ha,hpos,hle⟩ := hrec.exists_last hf
  have hfinal : ∀ k, (readAll ins (text.pieces.take k)).phase = .afterSidebar ↔ last ≤ k :=
    final_take_iff hq ha hle
  have hcut : ∀ k, patch ins (text.pieces.take k).flatten = (readAll ins (text.pieces.take k)).close := by
    intro k
    apply patch_of_readLines
    rw [Text.pieces_flatten_take]
    exact (readLines_take hq k).1
  obtain ⟨line,hline⟩ : ∃ line, text.pieces[last - 1]? = some line :=
    ⟨_,List.getElem?_eq_getElem (by omega)⟩
  refine ⟨last,line,ha,hpos,hline,?_,?_,(readAll ins (text.pieces.take last)).output,?_,?_⟩
  · intro k hk
    have hkf : (readAll ins (text.pieces.take k)).phase ≠ .afterSidebar := fun hp => by
      have := (hfinal k).mp hp
      omega
    obtain ⟨a,hfind,hphase⟩ := exists_find?_of_take hq hf (by omega) hkf
    exact ⟨a,hfind,by rw [hcut, close_of_not_final hkf, hphase]⟩
  · intro k hk
    have hkf := (hfinal k).mpr hk
    rw [hcut, close_of_final hkf, eq_through_of_take hq hkf]
    exact ⟨_,rfl,by rw [output_through]; exact List.prefix_append _ _⟩
  · have hlf := (hfinal last).mpr le_rfl
    rw [eq_through_of_take hq hlf, output_through]
  · intro hn s
    have hlf := (hfinal last).mpr le_rfl
    have hp : Text.pieces ((text.pieces.take last).flatten ++ s) = text.pieces.take last ++ Text.pieces s := by
      have hs := Text.pieces_flatten_take_append hline hn s
      rwa [Nat.sub_add_cancel hpos] at hs
    have hr : start.readLines ins (Text.pieces ((text.pieces.take last).flatten ++ s)) =
        .ok ((readAll ins (text.pieces.take last)).through (Text.pieces s)) := by
      rw [hp, readLines_append, (readLines_take hq last).1]
      exact readLines_final ins hlf _
    rw [patch_of_readLines hr, close_of_final (p := (readAll ins (text.pieces.take last)).through _) hlf,
      output_through, Text.flatten_pieces, eq_through_of_take hq hlf]
    rfl

def trailedPage : Text := smallPage "" ++ "\n</div>\n<nav id=\"sidebar\">\n</nav>".toList

set_option maxRecDepth 4000 in
theorem trailedPage_truncated : ∃ out above, patch smallInsertions trailedPage = .ok out ∧
    patch smallInsertions (trailedPage.pieces.take 3).flatten = .error (.endedIn .inScrollbox) ∧
    (∃ front, patch smallInsertions (trailedPage.pieces.take 6).flatten = .ok ⟨front,out.anchors⟩ ∧
      front <+: out.text) ∧
    ∀ s, patch smallInsertions ((trailedPage.pieces.take 5).flatten ++ s) = .ok ⟨above ++ s,out.anchors⟩ := by
  have h : patch smallInsertions trailedPage = .ok _ := rfl
  obtain ⟨last,line,ha,_,hline,hcut,hkept,above,_,habove⟩ := truncation_detected h
  obtain rfl : 5 = last := congrArg Anchor.line (Option.some.inj ha)
  obtain rfl : _ = line := Option.some.inj hline
  obtain ⟨a,hfind,herror⟩ := hcut 3 (by decide)
  obtain rfl : _ = a := Option.some.inj hfind
  exact ⟨_,above,h,herror,hkept 6 (by decide),habove (by decide)⟩

end BookTheme.Template
