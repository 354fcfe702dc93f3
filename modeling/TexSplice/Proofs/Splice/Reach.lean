import TexSplice.NamedEdit
import TexSplice.Proofs.Splice.Insert
import TexSplice.Proofs.Target.Bounds

/-! # How far edits of sections reach

No edit of a section touches what stands before the first section of a document or what follows
the end of its last one. This holds for a whole run of edits, although the text that an edit
puts in may bring sections, take them away or end the document's own text: what lies outside
holds no section and begins and ends between two lines, so no later outline finds a section
there. -/
namespace TexSplice

/-- Text before all sections: no section starts in it, and what follows it starts a line. -/
structure Lead (p : Text) : Prop where
  opens : Text.OpensLine p
  sections : (Outline.ofText p).sections = []

/-- Text behind all sections: nothing, or lines with no section in them of which the first ends the
document's own text. -/
def Trail (z : Text) : Prop :=
  z = [] ∨ ∃ w, z = '\n' :: w ∧ (Outline.ofText w).sections = [] ∧
    ∃ e ∈ (Outline.ofText w).finishes, e.span.start = 0

open Outline

/-! ## Sections lie between lead and trail -/

theorem Lead.le_start {p m : Text} {s : Section} (hp : Lead p)
    (hs : s ∈ (ofText (p ++ m)).sections) : p.length ≤ s.span.start := by
  obtain ⟨n, hn⟩ := sections_append_of_opensLine hp.opens m
  rw [hn, hp.sections, List.nil_append] at hs
  obtain ⟨u, _, rfl⟩ := List.mem_map.mp hs
  exact Nat.le_add_left ..

theorem Trail.sectionStop_le {m z : Text} {s : Section} (hz : Trail z)
    (hs : s ∈ (ofText (m ++ z)).sections) : (ofText (m ++ z)).sectionStop s ≤ m.length := by
  rcases hz with rfl | ⟨w, rfl, hnone, f, hf, hstart⟩
  · simpa using sectionStop_le_length hs
  · have in_front : ∀ u ∈ (ofText (m ++ '\n' :: w)).sections, u.span.start < m.length + 1 := by
      intro u hu
      obtain ⟨n, hn⟩ := sections_append_of_closesLine m (Text.closesLine_cons w)
      have hw : (ofText (List.drop 1 ('\n' :: w))).sections = [] := hnone
      rw [hn, hw, List.map_nil, List.append_nil] at hu
      have : u.span.stop ≤ m.length := stop_le_length (mem_sections.mp hu)
      have := u.span.start_le_stop
      omega
    obtain ⟨hfe, hfin⟩ := mem_finishes.mp hf
    let e := f.shifted (Text.lines m).length (m.length + 1)
    have he : e ∈ (ofText (m ++ '\n' :: w)).finishes :=
      mem_finishes.mpr ⟨mem_elements_append.mpr (.inr ⟨f, hfe, rfl⟩), hfin⟩
    have hpos : e.span.start = m.length + 1 := by simp [e, Element.shifted, Span.shifted, hstart]
    have := Outline.sectionStop_le hs he (hpos ▸ in_front s hs) (hpos ▸ in_front)
    rwa [hpos, Nat.add_sub_cancel] at this

/-! ## Steps and runs -/

/-- An edit of a section leaves what its frame holds before and after the section. -/
theorem SectionEdit.exists_document (e : SectionEdit) (f : Frame) :
    ∃ x, (e.run f).document = f.before ++ x ++ f.after := by
  cases e with
  | add content placement => exact f.exists_document_add content placement
  | delete => exact ⟨_, f.document_rebuild ..⟩
  | replace content => exact ⟨_, f.document_rebuild ..⟩

theorem NamedEdit.document_between {p z : Text} (hp : Lead p) (hz : Trail z) (target : Text)
    (e : SectionEdit) (m : Text) :
    ∃ m', ((onSection target e).run (p ++ m ++ z)).2.document (p ++ m ++ z) = p ++ m' ++ z := by
  simp only [run]
  cases hb : (ofText (p ++ m ++ z)).boundary? (p ++ m ++ z) target with
  | none => exact ⟨m, rfl⟩
  | some b =>
    obtain ⟨hs, hf⟩ := boundary?_eq_some hb
    obtain ⟨x, hx⟩ := e.exists_document b.frame
    have hstart : p.length ≤ b.found.span.start :=
      hp.le_start (by rwa [List.append_assoc] at hs)
    have hstop := hz.sectionStop_le hs
    have hbefore : p <+: b.frame.before := by
      rw [hf, List.append_assoc]
      exact List.prefix_take_iff.mpr ⟨List.prefix_append p _, hstart⟩
    have hafter : z <:+ b.frame.after := by
      simp only [hf, Frame.around, sectionSpan, List.drop_append_of_le_length hstop]
      exact List.suffix_append ..
    obtain ⟨u, hu⟩ := hbefore
    obtain ⟨v, hv⟩ := hafter
    exact ⟨u ++ x ++ v, by simp [EditOutcome.document, hx, ← hu, ← hv]⟩

theorem NamedEdit.runAll_between {p z : Text} (hp : Lead p) (hz : Trail z)
    (edits : List (Text × SectionEdit)) (m : Text) :
    ∃ m', runAll (p ++ m ++ z) (edits.map fun e => onSection e.1 e.2) = p ++ m' ++ z := by
  induction edits generalizing m with
  | nil => exact ⟨m, rfl⟩
  | cons e edits ih =>
    obtain ⟨m', hm⟩ := document_between hp hz e.1 e.2 m
    obtain ⟨m'', hr⟩ := ih m'
    refine ⟨m'', ?_⟩
    rw [← hr, ← hm]
    rfl

/-! ## The ends of a document -/

/-- What stands before an element is a lead if no section starts there. -/
theorem Lead.take_element {t : Text} {e : Element} (he : e ∈ (ofText t).elements)
    (hnone : ∀ u ∈ (ofText t).sections, e.span.start ≤ u.span.start) :
    Lead (t.take e.span.start) := by
  obtain ⟨before, line, after, st⟩ := exists_standsIn he
  have hstart : e.span.start = before.length := congrArg Span.start st.span
  have hbefore : t.take e.span.start = before := by rw [hstart, st.text]; simp
  rw [hbefore]
  refine ⟨st.opens, List.eq_nil_iff_forall_not_mem.mpr fun u hu => ?_⟩
  obtain ⟨n, hn⟩ := sections_append_of_opensLine st.opens (line ++ after)
  have hmem : u ∈ (ofText t).sections := by
    rw [st.text, List.append_assoc, hn]
    exact List.mem_append_left _ hu
  have hle : e.span.start ≤ u.span.start := hnone u hmem
  have hlt : u.span.stop < before.length := stop_lt_length_of_opensLine st.opens (mem_sections.mp hu)
  have := u.span.start_le_stop
  omega

/-- What stands from the line feed before the end of the document's own text on is a trail if no
section starts there. -/
theorem Trail.drop_finish {t : Text} {e : Element} (he : e ∈ (ofText t).finishes)
    (hpos : 0 < e.span.start) (hnone : ∀ u ∈ (ofText t).sections, u.span.start < e.span.start) :
    Trail (t.drop (e.span.start - 1)) := by
  obtain ⟨hmem, hfin⟩ := mem_finishes.mp he
  obtain ⟨before, line, after, st⟩ := exists_standsIn hmem
  have hstart : e.span.start = before.length := congrArg Span.start st.span
  rcases st.opens with rfl | ⟨c, rfl⟩
  · exact absurd hstart (Nat.ne_of_gt hpos)
  · have ht : t = c ++ '\n' :: (line ++ after) := by rw [st.text]; simp
    rw [List.length_append, List.length_singleton] at hstart
    rw [ht] at hmem hnone
    refine .inr ⟨line ++ after, ?_, ?_, ?_⟩
    · rw [hstart, Nat.add_sub_cancel, ht, List.drop_left]
    · refine List.eq_nil_iff_forall_not_mem.mpr fun u hu => ?_
      obtain ⟨n, hn⟩ := sections_append_of_closesLine c (Text.closesLine_cons (line ++ after))
      have hmem : u.shifted n (c.length + 1) ∈ (ofText (c ++ '\n' :: (line ++ after))).sections := by
        rw [hn]
        exact List.mem_append_right _ (List.mem_map_of_mem hu)
      have : u.span.start + (c.length + 1) < e.span.start := hnone _ hmem
      omega
    · rcases mem_elements_append.mp hmem with hc | ⟨f, hf, hfe⟩
      · have := stop_le_length hc
        have := e.span.start_le_stop
        omega
      · subst hfe
        refine ⟨f, mem_finishes.mpr ⟨hf, hfin⟩, ?_⟩
        simp only [Element.shifted, Span.shifted] at hstart
        omega

theorem Trail.drop_sectionStop {t : Text} {s : Section} {rest : List Section}
    (h : (ofText t).sections = rest ++ [s]) : Trail (t.drop ((ofText t).sectionStop s)) := by
  have hnext : (ofText t).nextSection? s = none := nextSection?_eq h
  unfold sectionStop
  rw [hnext]
  cases hf : (ofText t).finishAfter? s.span.start with
  | none => exact .inl (List.drop_eq_nil_of_le (Nat.le_max_left ..))
  | some e =>
    obtain ⟨hfin, hlt⟩ := finishAfter?_eq_some hf
    have hlt : s.span.start < e.span.start := Int.ofNat_lt.mp hlt
    have hmax : max (e.span.start - 1) s.span.start = e.span.start - 1 := by omega
    simp only [hmax]
    refine Trail.drop_finish hfin (by omega) fun u hu => ?_
    have := start_le_of_sections_concat h hu
    omega

theorem NamedEdit.runAll_of_no_sections {t : Text} (h : (ofText t).sections = []) :
    ∀ edits : List (Text × SectionEdit),
      runAll t (edits.map fun e => onSection e.1 e.2) = t
  | [] => rfl
  | e :: edits => by
    have hnone : (ofText t).boundary? t e.1 = none := by
      refine Option.eq_none_iff_forall_ne_some.mpr fun b hb => ?_
      have hs := (boundary?_eq_some hb).1
      rw [h] at hs
      cases hs
    have hstep : ((onSection e.1 e.2).run t).2.document t = t := by simp only [run, hnone]; rfl
    calc runAll t ((e :: edits).map fun e => onSection e.1 e.2)
      _ = runAll (((onSection e.1 e.2).run t).2.document t)
            (edits.map fun e => onSection e.1 e.2) := rfl
      _ = runAll t (edits.map fun e => onSection e.1 e.2) := by rw [hstep]
      _ = t := runAll_of_no_sections h edits

/-- **Edits of sections keep both ends of a document.** After any sequence of edits the document
still begins with what stood before its first section and ends with what stood behind its last,
with something between the two. What stood behind is nothing, or starts at the line that ends the
document's own text. A document without sections stays as it is. -/
theorem runAll_keeps_ends (t : Text) (edits : List (Text × SectionEdit)) :
    let o := ofText t
    let current := NamedEdit.runAll t (edits.map fun e => .onSection e.1 e.2)
    match o.sections.head?, o.sections.getLast? with
    | some first, some last =>
      Trail (t.drop (o.sectionSpan last).stop) ∧
        ∃ m, current = t.take first.span.start ++ m ++ t.drop (o.sectionSpan last).stop
    | _, _ => current = t := by
  rcases hsec : (ofText t).sections with _ | ⟨first, rest⟩
  · simp only [hsec, List.head?_nil]
    exact NamedEdit.runAll_of_no_sections hsec edits
  · obtain ⟨front, last, hlast⟩ : ∃ front last, first :: rest = front ++ [last] :=
      ⟨_, _, (List.dropLast_append_getLast (List.cons_ne_nil first rest)).symm⟩
    have hget : (first :: rest).getLast? = some last := by rw [hlast, List.getLast?_concat]
    simp only [hsec, List.head?_cons, hget]
    have hmem : first ∈ (ofText t).sections := hsec ▸ List.mem_cons_self
    have hlead : Lead (t.take first.span.start) :=
      Lead.take_element (mem_sections.mp hmem) fun u hu => start_le_of_sections_cons hsec hu
    have htrail := Trail.drop_sectionStop (hsec.trans hlast)
    -- the part between the ends, before any edit
    have hle : first.span.start ≤ (ofText t).sectionStop last :=
      Nat.le_trans (start_le_of_sections_concat (hsec.trans hlast) hmem)
        ((ofText t).sectionSpan last).start_le_stop
    let between : Span := ⟨first.span.start, (ofText t).sectionStop last, hle⟩
    have ht : t.take between.start ++ between.cut t ++ t.drop between.stop = t :=
      Frame.text_around [] t between
    obtain ⟨m, hm⟩ := NamedEdit.runAll_between hlead htrail edits (between.cut t)
    rw [ht] at hm
    exact ⟨htrail, m, hm⟩

end TexSplice
