import Mathlib.Data.List.Chain
import Mathlib.Data.List.Forall2
import TexSplice.Proofs.Splice.Reach
import TexSplice.Proofs.Text.Spans

/-! # Sections tile a text

From the first heading on a text is the texts of its sections with one line feed between each and
the next, and behind the last one nothing or what ends the document's own text. Each of those texts
is by itself a document of ONE section. All of this rests on one fact: no section starts inside
another, and no line that ends the document's own text stands inside the last. -/
namespace TexSplice

namespace Outline

variable {t : Text} {s : Section}

theorem exists_elements_cons {line z : Text} {m : Mark} (hl : '\n' ∉ line)
    (hz : Text.ClosesLine z) (hm : classify line = some m) :
    ∃ rest, (ofText (line ++ z)).elements = ⟨m, 0, Span.sized 0 line.length⟩ :: rest := by
  obtain ⟨ls, hls⟩ := Text.exists_lines_cons hl hz
  have he : (ofText (line ++ z)).elements = elementsFrom Rule.all 0 0 (line :: ls) := by
    rw [← hls]
    rfl
  have hm : classifyBy Rule.all line = some m := hm
  rw [he, elementsFrom, hm]
  exact ⟨_, rfl⟩

/-! ## No section starts inside another -/

theorem sectionStop_of_next {pre post : List Section} {next : Section}
    (h : (ofText t).sections = pre ++ s :: next :: post) :
    (ofText t).sectionStop s + 1 = next.span.start := by
  have hs : s ∈ (ofText t).sections := by simp [h]
  have hn : (ofText t).nextSection? s = some next := nextSection?_eq h
  have hlt := (nextSection?_eq_some hs hn).2
  have := s.span.start_le_stop
  have hmax : max (next.span.start - 1) s.span.start = next.span.start - 1 := by omega
  simp only [sectionStop, hn, hmax]
  omega

/-- A section ends before every section that starts behind it. -/
theorem sectionStop_lt_start {u : Section} (hs : s ∈ (ofText t).sections)
    (hu : u ∈ (ofText t).sections) (h : s.span.start < u.span.start) :
    (ofText t).sectionStop s < u.span.start := by
  obtain ⟨pre, post, hsplit⟩ := List.append_of_mem hs
  have hp := pairwise_sections t
  rw [hsplit] at hp hu
  obtain ⟨_, hp, hbefore⟩ := List.pairwise_append.mp hp
  rcases List.mem_append.mp hu with hu | hu
  · have := hbefore u hu s List.mem_cons_self
    have := u.span.start_le_stop
    omega
  · cases post with
    | nil =>
      rw [List.mem_singleton.mp hu] at h
      omega
    | cons next post =>
      have hstop := sectionStop_of_next hsplit
      rcases List.mem_cons.mp hu with rfl | hu
      · omega
      · rcases List.mem_cons.mp hu with rfl | hu
        · omega
        · have := (List.pairwise_cons.mp (List.pairwise_cons.mp hp).2).1 u hu
          have := next.span.start_le_stop
          omega

/-- The last section ends before every line behind its heading that ends the document's own
text. -/
theorem last_sectionStop_lt {rest : List Section} {e : Element}
    (h : (ofText t).sections = rest ++ [s]) (he : e ∈ (ofText t).finishes)
    (hlt : s.span.start < e.span.start) : (ofText t).sectionStop s < e.span.start := by
  have hs : s ∈ (ofText t).sections := by simp [h]
  have := sectionStop_le hs he hlt fun u hu =>
    Nat.lt_of_le_of_lt (start_le_of_sections_concat h hu) hlt
  omega

end Outline

/-! ## The text of one section -/

namespace Frame

theorem start_around {s : Span} {t : Text} (name : Text) (h : s.stop ≤ t.length) :
    (around name t s).start = s.start := by
  have := s.start_le_stop
  simp only [start, around, List.length_take]
  omega

theorem stop_around {s : Span} {t : Text} (name : Text) (h : s.stop ≤ t.length) :
    (around name t s).stop = s.stop := by
  have := s.start_le_stop
  simp only [stop, around, Span.cut, Text.slice, List.length_take, List.length_drop]
  omega

/-- The part in the middle of a frame has its heading on the first line. Its other elements are
elements of the whole text that stand behind the heading and within the part. -/
theorem Holds.elements_middle {f : Frame} {t : Text} {h : Heading} (hf : f.Holds t h) :
    ∃ first rest, (Outline.ofText f.middle).elements = first :: rest ∧
      first.mark = .heading h ∧ first.line = 0 ∧
      ∀ e ∈ rest, ∃ e' ∈ (Outline.ofText t).elements, e'.mark = e.mark ∧
        f.start < e'.span.start ∧ e'.span.start ≤ f.stop := by
  obtain ⟨line, z, hmiddle, hl, hz, hm⟩ := hf.headed
  obtain ⟨rest, helements⟩ := Outline.exists_elements_cons hl hz hm
  rw [← hmiddle] at helements
  refine ⟨_, rest, helements, rfl, rfl, fun e he => ?_⟩
  have hmem : e ∈ (Outline.ofText f.middle).elements := by
    rw [helements]
    exact List.mem_cons_of_mem _ he
  have hbehind : 0 < e.span.start := by
    have hp := Outline.pairwise_elements f.middle
    rw [helements] at hp
    have := (List.pairwise_cons.mp hp).1 e he
    omega
  have hwithin := Outline.stop_le_length hmem
  obtain ⟨n, hn⟩ := Outline.exists_shifted_mem hf.opens hf.closes hmem
  have htext : f.before ++ f.middle ++ f.after = t := hf.text
  rw [htext] at hn
  have := e.span.start_le_stop
  refine ⟨_, hn, rfl, ?_, ?_⟩
  · simp only [Element.shifted, Span.shifted, start]
    omega
  · simp only [Element.shifted, Span.shifted, stop]
    omega

end Frame

/-- A boundary fits a section of a text: it cuts the text at the section's heading and behind the
whole heading line, and what it holds has that heading, on its first line, and no other. -/
structure Boundary.Encloses (t : Text) (s : Section) (b : Boundary) : Prop where
  text : b.frame.text = t
  start : b.frame.start = s.span.start
  covers : s.span.stop ≤ b.frame.stop
  alone : ∃ u, (Outline.ofText b.frame.middle).sections = [u] ∧ u.line = 0 ∧ u.heading = s.heading

namespace Outline

variable {t : Text} {s : Section}

/-- The frame of a section holds one section. -/
theorem sections_middle_around (name : Text) (hs : s ∈ (ofText t).sections) :
    ∃ u, (ofText (Frame.around name t ((ofText t).sectionSpan s)).middle).sections = [u] ∧
      u.line = 0 ∧ u.heading = s.heading := by
  have hle : ((ofText t).sectionSpan s).stop ≤ t.length := sectionStop_le_length hs
  obtain ⟨first, rest, helements, hmark, hline, hrest⟩ := (Frame.holds_around name hs).elements_middle
  rw [Frame.start_around name hle, Frame.stop_around name hle] at hrest
  have hnone : rest.filterMap Element.section? = [] := by
    refine List.filterMap_eq_nil_iff.mpr fun e he => ?_
    obtain ⟨e', he', hmark', hlt, hstop⟩ := hrest e he
    cases hm : e.mark with
    | heading h =>
      -- it would be a section of the whole text that starts before this one ends
      have hu : (⟨h, e'.line, e'.span⟩ : Section) ∈ (ofText t).sections := by
        refine mem_sections.mpr ?_
        rw [Section.element, ← hm, ← hmark']
        exact he'
      exact absurd hstop (Nat.not_le.mpr (sectionStop_lt_start hs hu hlt))
    | opening _ | closing _ | finish _ => simp [Element.section?, hm]
  refine ⟨⟨s.heading, first.line, first.span⟩, ?_, hline, rfl⟩
  rw [sections, helements, List.filterMap_cons, hnone]
  simp [Element.section?, hmark]

theorem finishes_middle_around (name : Text) {rest : List Section}
    (h : (ofText t).sections = rest ++ [s]) :
    (ofText (Frame.around name t ((ofText t).sectionSpan s)).middle).finishes = [] := by
  have hs : s ∈ (ofText t).sections := by simp [h]
  have hle : ((ofText t).sectionSpan s).stop ≤ t.length := sectionStop_le_length hs
  obtain ⟨first, rest, helements, hmark, _, hrest⟩ := (Frame.holds_around name hs).elements_middle
  rw [Frame.start_around name hle, Frame.stop_around name hle] at hrest
  rw [finishes, helements]
  refine List.filter_eq_nil_iff.mpr fun e he hfinish => ?_
  rcases List.mem_cons.mp he with rfl | he
  · simp [Element.isFinish, hmark] at hfinish
  · -- the last section would not have gone on past this line
    obtain ⟨e', he', hmark', hlt, hstop⟩ := hrest e he
    have hfinish' : e' ∈ (ofText t).finishes := by
      refine mem_finishes.mpr ⟨he', ?_⟩
      rwa [Element.isFinish, hmark']
    exact absurd hstop (Nat.not_le.mpr (last_sectionStop_lt h hfinish' hlt))

def boundaryAround (o : Outline) (t : Text) (tier : Tier) (s : Section) : Boundary :=
  ⟨Frame.around s.heading.title t (o.sectionSpan s), s, tier⟩

theorem mapM_boundaryOf (o : Outline) (t : Text) (tier : Tier) (ss : List Section) :
    ss.mapM (fun s => o.boundaryOf t s tier) = .ok (ss.map (o.boundaryAround t tier)) := by
  simp only [boundaryOf_eq]
  exact List.mapM_pure

theorem start_boundaryAround (tier : Tier) (hs : s ∈ (ofText t).sections) :
    ((ofText t).boundaryAround t tier s).frame.start = s.span.start :=
  Frame.start_around _ (sectionStop_le_length hs)

theorem stop_boundaryAround (tier : Tier) (hs : s ∈ (ofText t).sections) :
    ((ofText t).boundaryAround t tier s).frame.stop = (ofText t).sectionStop s :=
  Frame.stop_around _ (sectionStop_le_length hs)

theorem encloses_boundaryAround (tier : Tier) (hs : s ∈ (ofText t).sections) :
    Boundary.Encloses t s ((ofText t).boundaryAround t tier s) := by
  refine ⟨Frame.text_around .., start_boundaryAround tier hs, ?_, sections_middle_around _ hs⟩
  rw [stop_boundaryAround tier hs]
  exact stop_le_sectionStop hs

/-! ## The texts of all sections -/

theorem drop_sectionStop_of_next {pre post : List Section} {next : Section}
    (h : (ofText t).sections = pre ++ s :: next :: post) :
    t.drop ((ofText t).sectionStop s) = '\n' :: t.drop next.span.start := by
  have hs : s ∈ (ofText t).sections := by simp [h]
  have hnext : next ∈ (ofText t).sections := by simp [h]
  have hstop := sectionStop_of_next h
  rcases closesLine_drop_sectionStop hs with hnil | ⟨w, hw⟩
  · have := List.drop_eq_nil_iff.mp hnil
    have : next.span.stop ≤ t.length := stop_le_length (mem_sections.mp hnext)
    have := next.span.start_le_stop
    omega
  · have htail := congrArg List.tail hw
    rw [List.tail_drop, hstop] at htail
    rw [hw, htail, List.tail_cons]

/-- From a section on a text is the texts of the sections with line feeds between them, up to the
end of the last. -/
theorem drop_start_eq {last : Section} (hlast : (ofText t).sections.getLast? = some last) :
    ∀ {pre post : List Section} {s : Section}, (ofText t).sections = pre ++ s :: post →
      t.drop s.span.start =
        Text.unlines ((s :: post).map fun u => ((ofText t).sectionSpan u).cut t) ++
          t.drop ((ofText t).sectionStop last)
  | pre, [], s, h => by
    have hs : last = s := by simpa [h] using hlast.symm
    subst hs
    rw [List.map_singleton, Text.unlines_singleton]
    exact (((ofText t).sectionSpan last).cut_append_drop t).symm
  | pre, next :: post, s, h => by
    have hnext : (ofText t).sections = (pre ++ [s]) ++ next :: post := by simp [h]
    have ih := drop_start_eq hlast hnext
    have hs : t.drop s.span.start =
        ((ofText t).sectionSpan s).cut t ++ t.drop ((ofText t).sectionStop s) :=
      (((ofText t).sectionSpan s).cut_append_drop t).symm
    -- between the two stands the line feed, which belongs to neither
    rw [hs, drop_sectionStop_of_next h, ih]
    simp only [List.map_cons, Text.unlines_cons_cons, List.append_assoc, List.cons_append]

/-- The boundary of a section ends at the line feed before the next. -/
theorem isChain_boundaryAround (t : Text) (tier : Tier) :
    ((ofText t).sections.map ((ofText t).boundaryAround t tier)).IsChain fun b next =>
      b.frame.stop + 1 = next.frame.start ∧ t[b.frame.stop]? = some '\n' := by
  rw [List.isChain_map, List.isChain_iff_forall_rel_of_append_cons_cons]
  intro s next pre post h
  have hs : s ∈ (ofText t).sections := by simp [h]
  have hnext : next ∈ (ofText t).sections := by simp [h]
  rw [stop_boundaryAround tier hs, start_boundaryAround tier hnext]
  refine ⟨sectionStop_of_next h, ?_⟩
  rw [← List.head?_drop, drop_sectionStop_of_next h, List.head?_cons]

/-- From its first section on a text is the texts of the boundaries and what follows the last. -/
theorem text_eq_boundaryAround (tier : Tier) {first last : Section}
    (hfirst : (ofText t).sections.head? = some first)
    (hlast : (ofText t).sections.getLast? = some last) :
    t = t.take first.span.start ++
      Text.unlines (((ofText t).sections.map ((ofText t).boundaryAround t tier)).map fun b =>
        b.frame.middle) ++ t.drop ((ofText t).sectionStop last) := by
  obtain ⟨post, hpost⟩ := List.head?_eq_some_iff.mp hfirst
  have hsplit : (ofText t).sections = [] ++ first :: post := hpost
  have hdrop := drop_start_eq hlast hsplit
  rw [← hpost] at hdrop
  rw [List.map_map]
  calc t
    _ = t.take first.span.start ++ t.drop first.span.start := (List.take_append_drop ..).symm
    _ = _ := by rw [hdrop, List.append_assoc]; rfl

end Outline

/-- **The sections tile a text.** Cutting a text around each of its sections always gives the text
back. The boundaries enclose their sections, each ends at the line feed before the next, and from
the first on their texts make up the whole text but for what stands behind the last: nothing, or the
line that ends the document's own text and what follows it. -/
theorem boundaries_tile (t : Text) (tier : Tier) :
    let o := Outline.ofText t
    ∃ bs, o.sections.mapM (fun s => o.boundaryOf t s tier) = .ok bs ∧
      List.Forall₂ (Boundary.Encloses t) o.sections bs ∧
      bs.IsChain (fun b next =>
        b.frame.stop + 1 = next.frame.start ∧ t[b.frame.stop]? = some '\n') ∧
      ∀ first ∈ bs.head?, ∀ last ∈ bs.getLast?,
        t = t.take first.frame.start ++ Text.unlines (bs.map fun b => b.frame.middle) ++
          last.frame.after ∧
        Trail last.frame.after ∧ (Outline.ofText last.frame.middle).finishes = [] := by
  intro o
  refine ⟨o.sections.map (o.boundaryAround t tier), o.mapM_boundaryOf t tier _, ?_,
    Outline.isChain_boundaryAround t tier, ?_⟩
  · refine List.forall₂_map_right_iff.mpr (List.forall₂_same.mpr fun s hs => ?_)
    exact Outline.encloses_boundaryAround tier hs
  · intro first hfirst last hlast
    rw [List.head?_map] at hfirst
    rw [List.getLast?_map] at hlast
    obtain ⟨s, hs, rfl⟩ := Option.map_eq_some_iff.mp hfirst
    obtain ⟨u, hu, rfl⟩ := Option.map_eq_some_iff.mp hlast
    obtain ⟨front, hfront⟩ := List.getLast?_eq_some_iff.mp hu
    rw [Outline.start_boundaryAround tier (List.mem_of_head? hs)]
    exact ⟨Outline.text_eq_boundaryAround tier hs hu, Trail.drop_sectionStop hfront,
      Outline.finishes_middle_around _ hfront⟩

/-- The first section is its heading alone, and the second ends before the document's last line. -/
theorem boundaries_tile_two :
    let t := "Hi\n\\section{A}\n\\section{B}\ny\n\\end\x7bdocument\x7d".toList
    ∃ b c : Boundary,
      (Outline.ofText t).sections.mapM (fun s => (Outline.ofText t).boundaryOf t s .exact) =
        .ok [b, c] ∧
      b.frame.stop + 1 = c.frame.start ∧
      t = t.take b.frame.start ++ (b.frame.middle ++ '\n' :: c.frame.middle) ++ c.frame.after ∧
      Trail c.frame.after := by
  intro t
  obtain ⟨bs, hbs, hall, hchain, hends⟩ := boundaries_tile t .exact
  have hlen : bs.length = 2 := by
    rw [← hall.length_eq]
    decide +kernel
  obtain ⟨b, c, rfl⟩ := List.length_eq_two.mp hlen
  obtain ⟨htext, htrail, _⟩ := hends b rfl c rfl
  refine ⟨b, c, hbs, (List.isChain_cons_cons.mp hchain).1.1, ?_, htrail⟩
  rwa [List.map_cons, List.map_singleton, Text.unlines_cons_cons, Text.unlines_singleton] at htext

end TexSplice
