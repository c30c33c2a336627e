import DocLinks.Fix.Apply
import DocLinks.Proofs.Assoc

/-!
# The order of fixes

A batch of fixes is carried out document by document, in the order in which the documents come first,
and in each document from the last line to the first. `LastLineFirst` says the second part without a
sorting function: the lines go down, and the fixes of one line keep the order in which they came. There
is one such order only (`LastLineFirst.eq_fromLastLine`).
-/

namespace DocLinks

/-! ## Grouping -/

/-- The documents of a batch, in the order in which they come first. -/
def sourcesOf (fs : List SuggestedFix) : List String := (fs.map (·.broken.sourceFile)).eraseDups

/-- The fixes of one document, in order. -/
def fixesOf (source : String) (fs : List SuggestedFix) : List SuggestedFix :=
  fs.filter (·.broken.sourceFile = source)

theorem mem_sourcesOf {source : String} {fs : List SuggestedFix} :
    source ∈ sourcesOf fs ↔ ∃ f ∈ fs, f.broken.sourceFile = source := by
  rw [sourcesOf, List.mem_eraseDups, List.mem_map]

theorem nodup_sourcesOf (fs : List SuggestedFix) : (sourcesOf fs).Nodup := nodup_eraseDups _

theorem mem_fixesOf {source : String} {fs : List SuggestedFix} {f : SuggestedFix} :
    f ∈ fixesOf source fs ↔ f ∈ fs ∧ f.broken.sourceFile = source := by
  simp [fixesOf]

theorem groupBySource_eq (fs : List SuggestedFix) :
    groupBySource fs = (sourcesOf fs).map fun source => (source, fixesOf source fs) := by
  rw [groupBySource, Assoc.group_eq, List.map_map]
  refine List.map_congr_left fun source _ => ?_
  rw [List.filter_map, List.map_map]
  simp [fixesOf, Function.comp_def]

/-! ## From the last line to the first -/

/-- `order` holds the given fixes from the last line to the first; those of one line keep their
order. -/
structure LastLineFirst (fs order : List SuggestedFix) : Prop where
  perm : order.Perm fs
  descending : order.Pairwise fun f g => g.broken.link.line ≤ f.broken.link.line
  sameLine : ∀ line : Int,
    order.filter (·.broken.link.line = line) = fs.filter (·.broken.link.line = line)

theorem lastLineFirst_fromLastLine (fs : List SuggestedFix) :
    LastLineFirst fs (fromLastLine fs) := by
  have htrans : ∀ f g h : SuggestedFix, decide (g.broken.link.line ≤ f.broken.link.line) = true →
      decide (h.broken.link.line ≤ g.broken.link.line) = true →
      decide (h.broken.link.line ≤ f.broken.link.line) = true := by
    intro f g h hfg hgh
    simp only [decide_eq_true_eq] at *
    omega
  have htotal : ∀ f g : SuggestedFix, (decide (g.broken.link.line ≤ f.broken.link.line) ||
      decide (f.broken.link.line ≤ g.broken.link.line)) = true := by
    intro f g
    simp only [Bool.or_eq_true, decide_eq_true_eq]
    omega
  have hperm : (fromLastLine fs).Perm fs := List.mergeSort_perm _ _
  refine ⟨hperm, ?_, fun line => ?_⟩
  · exact (List.pairwise_mergeSort htrans htotal fs).imp fun h => by simpa using h
  · -- The fixes of one line are in order already, so sorting leaves them a sublist.
    let here : SuggestedFix → Bool := fun f => f.broken.link.line = line
    have hsorted : (fs.filter here).Pairwise
        fun f g => decide (g.broken.link.line ≤ f.broken.link.line) = true := by
      refine List.pairwise_of_forall_mem_list fun f hf g hg => ?_
      have hf' : f.broken.link.line = line := by simpa [here] using (List.mem_filter.1 hf).2
      have hg' : g.broken.link.line = line := by simpa [here] using (List.mem_filter.1 hg).2
      simp [hf', hg']
    have hsub : (fs.filter here).Sublist (fromLastLine fs) :=
      List.sublist_mergeSort htrans htotal hsorted List.filter_sublist
    have hsub' : (fs.filter here).Sublist ((fromLastLine fs).filter here) := by
      have h := hsub.filter here
      rwa [List.filter_filter, show (fun a => here a && here a) = here from funext fun a =>
        Bool.and_self _] at h
    exact (hsub'.eq_of_length (hperm.filter here).length_eq.symm).symm

/-- The fixes of a list are told by those of each line. -/
theorem mem_of_filter_line_eq {fs gs : List SuggestedFix}
    (h : ∀ line : Int, fs.filter (·.broken.link.line = line) = gs.filter (·.broken.link.line = line)) :
    ∀ f ∈ fs, f ∈ gs := by
  intro f hf
  have hfilter : f ∈ fs.filter (·.broken.link.line = f.broken.link.line) := by simpa using hf
  rw [h] at hfilter
  exact (List.mem_filter.1 hfilter).1

/-- There is one such order only: the fixes of each line are given, and the lines go down. -/
theorem eq_of_descending {fs : List SuggestedFix} :
    ∀ {gs : List SuggestedFix},
      fs.Pairwise (fun f g => g.broken.link.line ≤ f.broken.link.line) →
      gs.Pairwise (fun f g => g.broken.link.line ≤ f.broken.link.line) →
      (∀ line : Int, fs.filter (·.broken.link.line = line) = gs.filter (·.broken.link.line = line)) →
      fs = gs := by
  induction fs with
  | nil =>
    intro gs _ _ h
    refine (List.eq_nil_iff_forall_not_mem.2 fun f hf => ?_).symm
    exact absurd (mem_of_filter_line_eq (fun line => (h line).symm) f hf) List.not_mem_nil
  | cons f fs ih =>
    intro gs hfs hgs h
    rcases gs with _ | ⟨g, gs⟩
    · exact absurd (mem_of_filter_line_eq h f (List.mem_cons_self ..)) List.not_mem_nil
    · have hf := mem_of_filter_line_eq h f (List.mem_cons_self ..)
      have hg := mem_of_filter_line_eq (fun line => (h line).symm) g (List.mem_cons_self ..)
      obtain ⟨hfirst, hfs'⟩ := List.pairwise_cons.1 hfs
      obtain ⟨hfirst', hgs'⟩ := List.pairwise_cons.1 hgs
      -- Both heads are on the last line, so they are the first fix of that line.
      have hgf : g.broken.link.line ≤ f.broken.link.line :=
        (List.mem_cons.1 hg).elim (fun heq => heq ▸ Int.le_refl _) (hfirst g)
      have hfg : f.broken.link.line ≤ g.broken.link.line :=
        (List.mem_cons.1 hf).elim (fun heq => heq ▸ Int.le_refl _) (hfirst' f)
      have hline : g.broken.link.line = f.broken.link.line := Int.le_antisymm hgf hfg
      have hhead := h f.broken.link.line
      rw [List.filter_cons_of_pos (by simp), List.filter_cons_of_pos (by simpa using hline)] at hhead
      obtain ⟨rfl, -⟩ := List.cons.inj hhead
      refine congrArg (f :: ·) (ih hfs' hgs' fun line => ?_)
      have hrest := h line
      by_cases hcase : f.broken.link.line = line
      · rw [List.filter_cons_of_pos (by simpa using hcase),
          List.filter_cons_of_pos (by simpa using hcase)] at hrest
        exact (List.cons.inj hrest).2
      · rwa [List.filter_cons_of_neg (by simpa using hcase),
          List.filter_cons_of_neg (by simpa using hcase)] at hrest

theorem LastLineFirst.eq_fromLastLine {fs order : List SuggestedFix} (h : LastLineFirst fs order) :
    order = fromLastLine fs := by
  have hsorted := lastLineFirst_fromLastLine fs
  exact eq_of_descending h.descending hsorted.descending fun line =>
    (h.sameLine line).trans (hsorted.sameLine line).symm

/-- Items that all have one key are at most one, if no key is there twice. -/
theorem eq_of_perm_of_key {α β : Type} {as bs : List α} (h : as.Perm bs) (key : α → β)
    (hnd : (bs.map key).Nodup) {k : β} (hkey : ∀ b ∈ bs, key b = k) : as = bs := by
  rcases bs with _ | ⟨b, _ | ⟨c, cs⟩⟩
  · exact h.eq_nil
  · exact List.perm_singleton.1 h
  · have hb := hkey b (List.mem_cons_self ..)
    have hc := hkey c (List.mem_cons_of_mem b (List.mem_cons_self ..))
    rw [List.map_cons, List.map_cons, hb, hc] at hnd
    exact absurd (List.mem_cons_self ..) (List.nodup_cons.1 hnd).1

/-- Fixes of different lines have no order of their own on a line. -/
theorem LastLineFirst.of_strictly_descending {fs order : List SuggestedFix} (hperm : order.Perm fs)
    (h : order.Pairwise fun f g => g.broken.link.line < f.broken.link.line) :
    LastLineFirst fs order where
  perm := hperm
  descending := h.imp Int.le_of_lt
  sameLine line := by
    have hlines : (order.map fun f => f.broken.link.line).Nodup := by
      rw [List.Nodup, List.pairwise_map]
      exact h.imp fun hlt heq => absurd heq (Int.ne_of_gt hlt)
    have hlines' := (hperm.map _).nodup_iff.1 hlines
    refine eq_of_perm_of_key (hperm.filter _) (fun f => f.broken.link.line)
      (hlines'.sublist (List.filter_sublist.map _)) (k := line) fun f hf => ?_
    exact of_decide_eq_true (List.mem_filter.1 hf).2

/-- The order is told by the fixes of each line. -/
theorem fromLastLine_congr {fs gs : List SuggestedFix}
    (h : ∀ line : Int, fs.filter (·.broken.link.line = line) = gs.filter (·.broken.link.line = line)) :
    fromLastLine fs = fromLastLine gs := by
  have hfs := lastLineFirst_fromLastLine fs
  have hgs := lastLineFirst_fromLastLine gs
  exact eq_of_descending hfs.descending hgs.descending fun line =>
    (hfs.sameLine line).trans ((h line).trans (hgs.sameLine line).symm)

/-- Fixes that come in that order already stay as they are. -/
theorem fromLastLine_of_descending {fs : List SuggestedFix}
    (h : fs.Pairwise fun f g => g.broken.link.line ≤ f.broken.link.line) : fromLastLine fs = fs :=
  List.mergeSort_of_pairwise (h.imp fun h => by simpa using h)

end DocLinks
