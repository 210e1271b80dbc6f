import JobMatrix.Proofs.FirstOccurrence
import JobMatrix.Template

/-!
The grammar of commands: literal texts and between them expressions in `${{` and `}}`. A command is cut exactly if
it is of this form. It has one reading then, whose placeholders and non-empty literals are its segments. Otherwise
what stands behind the longest beginning of this form is at fault.
-/
namespace JobMatrix.Template
open Text

inductive Names : List Char → Placeholder → Prop
  | toolchain : Names "toolchain".toList .toolchain
  | token : Names "secrets.token".toList .token
  | matrix {axis : List Char} (named : axis ≠ []) : Names ("matrix.".toList ++ axis) (.matrix (String.ofList axis))
  | env {name : List Char} (named : name ≠ []) : Names ("env.".toList ++ name) (.env (String.ofList name))

/-- A command taken apart: a literal, and before each further literal an expression. -/
inductive Pieces
  | last (literal : List Char)
  | next (literal expression : List Char) (later : Pieces)

namespace Pieces

def text : Pieces → List Char
  | last l => l
  | next l e later => l ++ opening ++ (e ++ closing ++ later.text)

def expressions : Pieces → List (List Char)
  | last _ => []
  | next _ e later => e :: later.expressions

inductive Means : Pieces → List Segment → Prop
  | last {l : List Char} (literal : ¬ opening <:+: l) : Means (last l) (Segment.literals l)
  | next {l e : List Char} {p : Placeholder} {later : Pieces} {segments : List Segment}
      (literal : ¬ opening <:+: l) (closed : ¬ closing <:+: e ++ ['\x7d']) (named : Names (trim e) p)
      (rest : Means later segments) : Means (next l e later) (Segment.literals l ++ .placeholder p :: segments)

def IsSound (d : Pieces) : Prop := ∃ segments, d.Means segments

end Pieces

inductive Fault : List Char → TemplateError → Prop
  | unterminated {inside : List Char} (unclosed : ¬ closing <:+: inside) : Fault inside .unterminated
  | unknown {e rest : List Char} (closed : ¬ closing <:+: e ++ ['\x7d']) (unnamed : ∀ p, ¬ Names (trim e) p) :
      Fault (e ++ closing ++ rest) (.unknown (String.ofList (trim e)))

/-- The longest sound beginning of a text with an opening behind it: no sound beginning has more placeholders, and
none with an opening behind it reaches further. -/
structure StopsAt (s : List Char) (d : Pieces) (inside : List Char) : Prop where
  source : s = d.text ++ opening ++ inside
  sound : d.IsSound
  most : ∀ d' rest, Pieces.IsSound d' → s = d'.text ++ rest → d'.expressions.length ≤ d.expressions.length
  longest : ∀ d' inside', Pieces.IsSound d' → s = d'.text ++ opening ++ inside' → d'.text.length ≤ d.text.length

variable {l e s inside rest : List Char} {p : Placeholder} {segments segments' : List Segment} {d d' : Pieces}
  {err : TemplateError}

theorem afterStart?_eq_some_iff {start : List Char} : afterStart? start s = some rest ↔ s = start ++ rest := by
  constructor
  · intro h
    obtain ⟨hp, rfl⟩ : start.isPrefixOf s = true ∧ s.drop start.length = rest := by simpa [afterStart?] using h
    exact (List.prefix_iff_eq_append.mp (List.isPrefixOf_iff_prefix.mp hp)).symm
  · rintro rfl
    simp [afterStart?]

theorem names_of_ofExpression? (h : Placeholder.ofExpression? e = some p) : Names e p := by
  unfold Placeholder.ofExpression? at h
  split at h
  · next he =>
    cases h
    exact he ▸ .toolchain
  · split at h
    · next he =>
      cases h
      exact he ▸ .token
    · split at h
      · cases h
      · next _ _ axis named hm =>
        cases h
        exact afterStart?_eq_some_iff.mp hm ▸ .matrix named
      · cases h
      · next _ _ name named hm he =>
        cases h
        exact afterStart?_eq_some_iff.mp he ▸ .env named
      · cases h

theorem ofExpression?_of_names (h : Names e p) : Placeholder.ofExpression? e = some p := by
  cases h with
  | toolchain => rfl
  | token => rfl
  | @matrix axis named =>
    obtain ⟨c, axis, rfl⟩ := List.exists_cons_of_ne_nil named
    have hm : afterStart? "matrix.".toList ("matrix.".toList ++ c :: axis) = some (c :: axis) :=
      afterStart?_eq_some_iff.mpr rfl
    unfold Placeholder.ofExpression?
    rw [hm, if_neg (by simp), if_neg (by simp)]
  | @env name named =>
    obtain ⟨c, name, rfl⟩ := List.exists_cons_of_ne_nil named
    have hm : afterStart? "matrix.".toList ("env.".toList ++ c :: name) = none := rfl
    have he : afterStart? "env.".toList ("env.".toList ++ c :: name) = some (c :: name) :=
      afterStart?_eq_some_iff.mpr rfl
    unfold Placeholder.ofExpression?
    rw [hm, he, if_neg (by simp), if_neg (by simp)]

theorem not_crosses_opening {a b : List Char} (h : b.head? ≠ some '\x7b') : ¬ Crosses opening a b := by
  rintro ⟨n, hn, hpos, -, r, rfl⟩
  have hlt : n < 3 := hn
  obtain rfl | rfl : n = 1 ∨ n = 2 := by omega
  · exact h rfl
  · exact h rfl

/-- An opening does not overlap another, so a literal without one has none before the next either. -/
theorem not_infix_opening (literal : ¬ opening <:+: l) : ¬ opening <:+: l ++ opening.dropLast := by
  rw [infix_append_iff_crosses]
  rintro (hi | hi | hi)
  · exact literal hi
  · exact absurd hi (by decide)
  · exact not_crosses_opening (by decide) hi

theorem cut?_opening (literal : ¬ opening <:+: l) (inside : List Char) :
    cut? opening (l ++ opening ++ inside) = some (l, inside) :=
  cut?_append (by decide) (not_infix_opening literal) inside

theorem cut?_closing (closed : ¬ closing <:+: e ++ ['\x7d']) (rest : List Char) :
    cut? closing (e ++ closing ++ rest) = some (e, rest) :=
  cut?_append (by decide) closed rest

theorem opening_inj {l' inside' : List Char} (literal : ¬ opening <:+: l) (literal' : ¬ opening <:+: l')
    (same : l ++ opening ++ inside = l' ++ opening ++ inside') : l = l' ∧ inside = inside' :=
  append_inj_of_first (by decide) (not_infix_opening literal) (not_infix_opening literal') same

theorem closing_inj {e' rest' : List Char} (closed : ¬ closing <:+: e ++ ['\x7d'])
    (closed' : ¬ closing <:+: e' ++ ['\x7d']) (same : e ++ closing ++ rest = e' ++ closing ++ rest') :
    e = e' ∧ rest = rest' :=
  append_inj_of_first (by decide) closed closed' same

theorem segmentsOf_literal (literal : ¬ opening <:+: l) : segmentsOf l = .ok (Segment.literals l) := by
  have hcut := (cut?_eq_none_iff (by decide)).mpr literal
  rw [segmentsOf]
  split
  · rfl
  · simp_all

theorem segmentsOf_of_cut? (h : cut? opening s = some (l, inside)) :
    segmentsOf s = match cut? closing inside with
      | none => .error .unterminated
      | some (e, rest) => match Placeholder.ofExpression? (trim e) with
        | none => .error (.unknown (String.ofList (trim e)))
        | some p => (segmentsOf rest).map fun later => Segment.literals l ++ .placeholder p :: later := by
  rw [segmentsOf]
  split
  · simp_all
  · next before after hcut =>
    obtain ⟨rfl, rfl⟩ := Prod.mk.inj (Option.some.inj (h.symm.trans hcut))
    split
    · next hclose => rw [hclose]
    · next e rest hclose =>
      simp only [hclose]
      cases Placeholder.ofExpression? (trim e) with
      | none => rfl
      | some p => cases segmentsOf rest <;> rfl

theorem segmentsOf_next (literal : ¬ opening <:+: l) (closed : ¬ closing <:+: e ++ ['\x7d'])
    (named : Names (trim e) p) (rest : List Char) :
    segmentsOf (l ++ opening ++ (e ++ closing ++ rest)) =
      (segmentsOf rest).map fun later => Segment.literals l ++ .placeholder p :: later := by
  rw [segmentsOf_of_cut? (cut?_opening literal _), cut?_closing closed]
  simp only [ofExpression?_of_names named]

theorem segmentsOf_fault (literal : ¬ opening <:+: l) (fault : Fault inside err) :
    segmentsOf (l ++ opening ++ inside) = .error err := by
  rw [segmentsOf_of_cut? (cut?_opening literal inside)]
  cases fault with
  | unterminated unclosed => rw [(cut?_eq_none_iff (by decide)).mpr unclosed]
  | unknown closed unnamed =>
    have hnone : Placeholder.ofExpression? (trim _) = none :=
      Option.eq_none_iff_forall_ne_some.mpr fun p h => unnamed p (names_of_ofExpression? h)
    rw [cut?_closing closed]
    simp only [hnone]

namespace Pieces

theorem text_next_append (l e : List Char) (later : Pieces) (t : List Char) :
    (next l e later).text ++ t = l ++ opening ++ (e ++ closing ++ (later.text ++ t)) := by
  simp [text]

theorem Means.segmentsOf_text (h : d.Means segments) : segmentsOf d.text = .ok segments := by
  induction h with
  | last literal => exact segmentsOf_literal literal
  | next literal closed named rest ih =>
    rw [text, segmentsOf_next literal closed named, ih]
    rfl

theorem Means.segmentsOf_fault (h : d.Means segments) (fault : Fault inside err) :
    segmentsOf (d.text ++ (opening ++ inside)) = .error err := by
  induction h with
  | last literal =>
    rw [text, ← List.append_assoc]
    exact Template.segmentsOf_fault literal fault
  | next literal closed named rest ih =>
    rw [text_next_append, segmentsOf_next literal closed named, ih]
    rfl

theorem exists_reading (s : List Char) :
    (∃ d : Pieces, d.text = s ∧ d.IsSound) ∨
      ∃ (d : Pieces) (inside : List Char) (err : TemplateError),
        s = d.text ++ (opening ++ inside) ∧ d.IsSound ∧ Fault inside err := by
  induction hn : s.length using Nat.strongRecOn generalizing s with
  | _ n ih =>
    cases hcut : cut? opening s with
    | none =>
      have literal := (cut?_eq_none_iff (by decide)).mp hcut
      exact .inl ⟨last s, rfl, _, .last literal⟩
    | some found =>
      obtain ⟨l, inside⟩ := found
      have hs : s = l ++ (opening ++ inside) := by rw [cut?_eq_append hcut, List.append_assoc]
      have literal : ¬ opening <:+: l := fun hi =>
        not_infix_of_cut? (by decide) hcut (hi.trans (List.prefix_append l _).isInfix)
      cases hclose : cut? closing inside with
      | none =>
        have unclosed := (cut?_eq_none_iff (by decide)).mp hclose
        exact .inr ⟨last l, inside, _, hs, ⟨_, .last literal⟩, .unterminated unclosed⟩
      | some found =>
        obtain ⟨e, rest⟩ := found
        have hinside := cut?_eq_append hclose
        have closed : ¬ closing <:+: e ++ ['\x7d'] := not_infix_of_cut? (by decide) hclose
        by_cases hnamed : ∃ p, Names (trim e) p
        · obtain ⟨p, named⟩ := hnamed
          have hshorter : rest.length < n := by
            have h₁ := length_lt_of_cut? hcut (by decide)
            have h₂ := length_lt_of_cut? hclose (by decide)
            omega
          rcases ih rest.length hshorter rest rfl with ⟨d, rfl, _, hd⟩ | ⟨d, inside', err, rfl, ⟨_, hd⟩, fault⟩
          · exact .inl ⟨next l e d, by simp [text, hs, hinside], _, .next literal closed named hd⟩
          · refine .inr ⟨next l e d, inside', err, ?_, ⟨_, .next literal closed named hd⟩, fault⟩
            rw [text_next_append, hs, hinside, List.append_assoc l]
        · have unnamed : ∀ p, ¬ Names (trim e) p := fun p named => hnamed ⟨p, named⟩
          subst hinside
          exact .inr ⟨last l, _, _, hs, ⟨_, .last literal⟩, .unknown closed unnamed⟩

theorem Means.unique (h : d.Means segments) (h' : d'.Means segments') (same : d.text = d'.text) : d = d' := by
  induction h generalizing d' segments' with
  | last literal =>
    cases h' with
    | last literal' => rw [text, text] at same; rw [same]
    | next literal' closed' named' rest' =>
      rw [text, text] at same
      exact absurd (same ▸ List.infix_append _ _ _) literal
  | next literal closed named rest ih =>
    cases h' with
    | last literal' =>
      rw [text, text] at same
      exact absurd (same ▸ List.infix_append _ _ _) literal'
    | next literal' closed' named' rest' =>
      obtain ⟨rfl, hinside⟩ := opening_inj literal literal' same
      obtain ⟨rfl, hlater⟩ := closing_inj closed closed' hinside
      rw [ih rest' hlater]

theorem Means.reaches_no_further (h : d.Means segments) (fault : Fault inside err) (h' : d'.Means segments')
    (same : d.text ++ (opening ++ inside) = d'.text ++ rest) :
    d'.expressions.length ≤ d.expressions.length ∧ (opening <+: rest → d'.text.length ≤ d.text.length) := by
  -- The two agree piece by piece until one of them ends, and what stands behind `d` has no further piece.
  induction h generalizing d' segments' with
  | @last l literal =>
    rw [text, ← List.append_assoc] at same
    cases h' with
    | @last l' literal' =>
      refine ⟨Nat.le_refl 0, ?_⟩
      rintro ⟨inside', rfl⟩
      rw [text, ← List.append_assoc] at same
      rw [(opening_inj literal literal' same).1]
    | @next l' e' p' later' _ literal' closed' named' _ =>
      rw [text_next_append] at same
      obtain ⟨-, hinside⟩ := opening_inj literal literal' same
      exfalso
      cases fault with
      | unterminated unclosed => exact unclosed (hinside ▸ List.infix_append _ _ _)
      | unknown closed unnamed =>
        obtain ⟨rfl, -⟩ := closing_inj closed closed' hinside
        exact unnamed p' named'
  | @next l e p later _ literal closed named _ ih =>
    rw [text_next_append] at same
    cases h' with
    | @last l' literal' =>
      refine ⟨Nat.zero_le _, ?_⟩
      rintro ⟨inside', rfl⟩
      rw [text, ← List.append_assoc l'] at same
      obtain ⟨rfl, -⟩ := opening_inj literal literal' same
      simp [text]
    | @next l' e' p' later' _ literal' closed' named' hrest' =>
      rw [text_next_append] at same
      obtain ⟨rfl, hinside⟩ := opening_inj literal literal' same
      obtain ⟨rfl, hlater⟩ := closing_inj closed closed' hinside
      obtain ⟨hcount, hlength⟩ := ih hrest' hlater
      refine ⟨Nat.succ_le_succ hcount, fun hopens => ?_⟩
      have hle := hlength hopens
      simp only [text, List.length_append]
      omega

end Pieces

theorem stopsAt_of_fault (sound : d.IsSound) (fault : Fault inside err) (source : s = d.text ++ (opening ++ inside)) :
    StopsAt s d inside := by
  obtain ⟨segments, h⟩ := sound
  refine ⟨by rw [source, List.append_assoc], ⟨segments, h⟩, ?_, ?_⟩
  · rintro d' rest ⟨segments', h'⟩ hs
    exact (h.reaches_no_further fault h' (source ▸ hs)).1
  · rintro d' inside' ⟨segments', h'⟩ hs
    rw [List.append_assoc] at hs
    exact (h.reaches_no_further fault h' (source ▸ hs)).2 (List.prefix_append opening inside')

theorem segmentsOf_eq_ok_iff : segmentsOf s = .ok segments ↔ ∃ d : Pieces, d.text = s ∧ d.Means segments := by
  constructor
  · intro hok
    rcases Pieces.exists_reading s with ⟨d, rfl, segments', h⟩ | ⟨d, inside, err, rfl, ⟨segments', h⟩, fault⟩
    · rw [h.segmentsOf_text] at hok
      cases hok
      exact ⟨d, rfl, h⟩
    · rw [h.segmentsOf_fault fault] at hok
      cases hok
  · rintro ⟨d, rfl, h⟩
    exact h.segmentsOf_text

theorem segmentsOf_eq_error_iff : segmentsOf s = .error err ↔ ∃ d inside, StopsAt s d inside ∧ Fault inside err := by
  constructor
  · intro herror
    rcases Pieces.exists_reading s with ⟨d, rfl, segments', h⟩ | ⟨d, inside, err', hs, sound, fault⟩
    · rw [h.segmentsOf_text] at herror
      cases herror
    · obtain ⟨segments', h⟩ := sound
      rw [hs, h.segmentsOf_fault fault] at herror
      cases herror
      exact ⟨d, inside, stopsAt_of_fault ⟨segments', h⟩ fault hs, fault⟩
  · rintro ⟨d, inside, stops, fault⟩
    obtain ⟨segments', h⟩ := stops.sound
    rw [stops.source, List.append_assoc]
    exact h.segmentsOf_fault fault

theorem parse_eq_ok_iff {source : String} {t : Template} :
    parse source = .ok t ↔ segmentsOf source.toList = .ok t.segments := by
  obtain ⟨segments⟩ := t
  rw [parse]
  cases segmentsOf source.toList <;> simp [Except.map]

theorem parse_eq_error_iff {source : String} :
    parse source = .error err ↔ segmentsOf source.toList = .error err := by
  rw [parse]
  cases segmentsOf source.toList <;> simp [Except.map]

/-- A command is cut exactly if it is made of literals without an opening and of expressions, each up to the first
closing behind it, that name a placeholder. It is made so in one way, and its segments are the non-empty literals
and the placeholders in their order. Any other command is cut up to the longest beginning of this form, and refused
for the next opening: nothing closes it, or the expression up to its closing names no placeholder. -/
theorem parse_follows_grammar (source : String) :
    (∀ t : Template, parse source = .ok t ↔ ∃ d : Pieces, d.text = source.toList ∧ d.Means t.segments) ∧
      (∀ d d' : Pieces, d.IsSound → d'.IsSound → d.text = source.toList → d'.text = source.toList → d = d') ∧
      (∀ err : TemplateError, parse source = .error err ↔
        ∃ d inside, StopsAt source.toList d inside ∧ Fault inside err) ∧
      ((∃ d : Pieces, d.text = source.toList ∧ d.IsSound) ∨
        ∃ d inside err, StopsAt source.toList d inside ∧ Fault inside err) := by
  refine ⟨fun t => parse_eq_ok_iff.trans segmentsOf_eq_ok_iff, ?_,
    fun err => parse_eq_error_iff.trans segmentsOf_eq_error_iff, ?_⟩
  · rintro d d' ⟨segments, h⟩ ⟨segments', h'⟩ hd hd'
    exact h.unique h' (hd.trans hd'.symm)
  · rcases Pieces.exists_reading source.toList with hread | ⟨d, inside, err, hs, sound, fault⟩
    · exact .inl hread
    · exact .inr ⟨d, inside, err, stopsAt_of_fault sound fault hs, fault⟩

example : parse "make $\x7b\x7b os \x7d\x7d $\x7b\x7b toolchain" = .error (.unknown "os") := by decide +kernel

end JobMatrix.Template
