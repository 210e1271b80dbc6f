import JobMatrix.Proofs.CommandGrammar

/-!
Commands one after the other. If no opening comes about where they meet, the pieces of the one are followed by those
of the other, with the last literal and the first made one. So a command is resolved part by part: literal text is
copied, and a value that is put in is not looked at again.
-/
namespace JobMatrix.Template
open Text
variable {l e : List Char} {p : Placeholder} {a b c : List Segment} {d d' : Pieces} {s t : String}
  {first second : Template}

namespace Pieces

def append : Pieces → Pieces → Pieces
  | last l, last l' => last (l ++ l')
  | last l, next l' e later => next (l ++ l') e later
  | next l e later, d => next l e (later.append d)

theorem text_append (d d' : Pieces) : (d.append d').text = d.text ++ d'.text := by
  induction d with
  | last l => cases d' <;> simp [append, text]
  | next l e later ih => simp [append, text, ih]

end Pieces

/-- Segments with the placeholders and the text of two lists of segments, one after the other. -/
structure Joins (a b c : List Segment) : Prop where
  placeholders : placeholders ⟨c⟩ = placeholders ⟨a⟩ ++ placeholders ⟨b⟩
  render : ∀ value, render value c = render value a ++ render value b

theorem render_append (value : Placeholder → String) (a b : List Segment) :
    render value (a ++ b) = render value a ++ render value b := by
  induction a with
  | nil => simp [render]
  | cons segment a ih => cases segment <;> simp [render, ih, String.append_assoc]

theorem render_literals (value : Placeholder → String) (l : List Char) :
    render value (Segment.literals l) = String.ofList l := by
  by_cases hl : l = []
  · simp [Segment.literals, hl, render]
  · simp [Segment.literals, hl, render]

theorem placeholders_append (a b : List Segment) :
    placeholders ⟨a ++ b⟩ = placeholders ⟨a⟩ ++ placeholders ⟨b⟩ :=
  List.filterMap_append

theorem placeholders_literals (l : List Char) : placeholders ⟨Segment.literals l⟩ = [] := by
  by_cases hl : l = [] <;> simp [Segment.literals, hl, placeholders]

theorem joins_literals (l l' : List Char) : Joins (Segment.literals l) (Segment.literals l') (Segment.literals (l ++ l')) where
  placeholders := by simp only [placeholders_literals, List.append_nil]
  render value := by simp only [render_literals, String.ofList_append]

theorem Joins.append_right (h : Joins a b c) (later : List Segment) : Joins a (b ++ later) (c ++ later) where
  placeholders := by simp only [placeholders_append, h.placeholders, List.append_assoc]
  render value := by simp only [render_append, h.render, String.append_assoc]

theorem Joins.append_left (h : Joins a b c) (front : List Segment) : Joins (front ++ a) b (front ++ c) where
  placeholders := by simp only [placeholders_append, h.placeholders, List.append_assoc]
  render value := by simp only [render_append, h.render, String.append_assoc]

theorem Pieces.Means.append (h : d.Means a) (h' : d'.Means b) (apart : ¬ Crosses opening d.text d'.text) :
    ∃ c, (d.append d').Means c ∧ Joins a b c := by
  induction h with
  | @last l literal =>
    have hmeet : ∀ l', ¬ opening <:+: l' → l' <+: d'.text → ¬ opening <:+: l ++ l' := by
      intro l' literal' hp hi
      rcases infix_append_iff_crosses.mp hi with hi | hi | hi
      · exact literal hi
      · exact literal' hi
      · exact apart (hi.of_prefix hp)
    cases h' with
    | @last l' literal' => exact ⟨_, .last (hmeet l' literal' List.prefix_rfl), joins_literals l l'⟩
    | @next l' e p later segments literal' closed named rest =>
      have hp : l' <+: (Pieces.next l' e later).text := by simp [Pieces.text]
      exact ⟨_, .next (hmeet l' literal' hp) closed named rest, (joins_literals l l').append_right _⟩
  | @next l e p later segments literal closed named rest ih =>
    have hsuffix : later.text <:+ (Pieces.next l e later).text := by
      simp only [Pieces.text, ← List.append_assoc]
      exact List.suffix_append _ _
    obtain ⟨c, hc, hjoins⟩ := ih fun hcross => apart (hcross.of_suffix hsuffix)
    have hleft := hjoins.append_left (Segment.literals l ++ [.placeholder p])
    simp only [List.append_assoc, List.singleton_append] at hleft
    exact ⟨_, .next literal closed named hc, hleft⟩

theorem parse_append (hs : parse s = .ok first) (ht : parse t = .ok second)
    (apart : ¬ Crosses opening s.toList t.toList) :
    ∃ both, parse (s ++ t) = .ok both ∧ Joins first.segments second.segments both.segments := by
  obtain ⟨d, hd, means⟩ := segmentsOf_eq_ok_iff.mp (parse_eq_ok_iff.mp hs)
  obtain ⟨d', hd', means'⟩ := segmentsOf_eq_ok_iff.mp (parse_eq_ok_iff.mp ht)
  rw [← hd, ← hd'] at apart
  obtain ⟨segments, hmeans, hjoins⟩ := means.append means' apart
  have htext : (d.append d').text = (s ++ t).toList := by rw [Pieces.text_append, hd, hd', String.toList_append]
  exact ⟨⟨segments⟩, parse_eq_ok_iff.mpr (segmentsOf_eq_ok_iff.mpr ⟨_, htext, hmeans⟩), hjoins⟩

def written (e : List Char) : String := String.ofList (opening ++ e ++ closing)

theorem parse_written (closed : ¬ closing <:+: e ++ ['\x7d']) (named : Names (trim e) p) :
    parse (written e) = .ok ⟨[.placeholder p]⟩ := by
  have means : (Pieces.next [] e (.last [])).Means [.placeholder p] :=
    .next (by decide) closed named (.last (by decide))
  exact parse_eq_ok_iff.mpr (segmentsOf_eq_ok_iff.mpr ⟨_, by simp [Pieces.text, written], means⟩)

theorem not_crosses_of_closing (a b : List Char) : ¬ Crosses opening (a ++ closing) b := by
  rintro ⟨n, hn, hpos, ⟨r, hr⟩, -⟩
  have hlt : n < 3 := hn
  have hlast := congrArg List.getLast? hr
  obtain rfl | rfl : n = 1 ∨ n = 2 := by omega
  · simp [opening, closing] at hlast
  · simp [opening, closing] at hlast

theorem parse_around (hs : parse s = .ok first) (ht : parse t = .ok second)
    (closed : ¬ closing <:+: e ++ ['\x7d']) (named : Names (trim e) p) :
    ∃ whole, parse (s ++ written e ++ t) = .ok whole ∧
      whole.placeholders = first.placeholders ++ p :: second.placeholders ∧
      ∀ value, render value whole.segments =
        render value first.segments ++ value p ++ render value second.segments := by
  have hfront : ¬ Crosses opening s.toList (written e).toList := not_crosses_opening (by simp [written, opening])
  obtain ⟨front, hf, hjoins⟩ := parse_append hs (parse_written closed named) hfront
  have hback : ¬ Crosses opening (s ++ written e).toList t.toList := by
    have hends : (s ++ written e).toList = s.toList ++ opening ++ e ++ closing := by simp [written]
    rw [hends]
    exact not_crosses_of_closing _ _
  obtain ⟨whole, hw, hjoins'⟩ := parse_append hf ht hback
  refine ⟨whole, hw, ?_, fun value => ?_⟩
  · calc
      whole.placeholders = front.placeholders ++ second.placeholders := hjoins'.placeholders
      _ = first.placeholders ++ [p] ++ second.placeholders := congrArg (· ++ _) hjoins.placeholders
      _ = first.placeholders ++ p :: second.placeholders := by simp
  · rw [hjoins'.render, hjoins.render]
    simp [render]

theorem parse_literal {text : String} (literal : ¬ opening <:+: text.toList) :
    parse text = .ok ⟨Segment.literals text.toList⟩ :=
  parse_eq_ok_iff.mpr (segmentsOf_literal literal)

/-- Two commands that can be cut, and between which no opening comes about, are one command that can be cut: its
placeholders are those of the two, and it is resolved to what the two are resolved to. So a command without an
opening is resolved to itself, and a placeholder anywhere is resolved to its value as it is. -/
theorem resolve_append (hs : parse s = .ok first) (ht : parse t = .ok second)
    (apart : ¬ Crosses opening s.toList t.toList) :
    (∃ both, parse (s ++ t) = .ok both ∧ both.placeholders = first.placeholders ++ second.placeholders ∧
      ∀ job settings stepEnv, both.resolve job settings stepEnv =
        first.resolve job settings stepEnv ++ second.resolve job settings stepEnv) ∧
      (∀ text : String, ¬ opening <:+: text.toList → ∃ copied, parse text = .ok copied ∧
        ∀ job settings stepEnv, copied.resolve job settings stepEnv = text) ∧
      ∀ e p, ¬ closing <:+: e ++ ['\x7d'] → Names (trim e) p →
        ∃ whole, parse (s ++ written e ++ t) = .ok whole ∧
          whole.placeholders = first.placeholders ++ p :: second.placeholders ∧
          ∀ job settings stepEnv, whole.resolve job settings stepEnv =
            first.resolve job settings stepEnv ++ valueOf job settings stepEnv p ++
              second.resolve job settings stepEnv := by
  refine ⟨?_, fun text literal => ?_, fun e p closed named => ?_⟩
  · obtain ⟨both, hboth, hjoins⟩ := parse_append hs ht apart
    exact ⟨both, hboth, hjoins.placeholders, fun job settings stepEnv => hjoins.render _⟩
  · refine ⟨_, parse_literal literal, fun job settings stepEnv => ?_⟩
    rw [resolve, render_literals, String.ofList_toList]
  · obtain ⟨whole, hwhole, hplaceholders, hrender⟩ := parse_around hs ht closed named
    exact ⟨whole, hwhole, hplaceholders, fun job settings stepEnv => hrender _⟩

theorem resolve_braces_append :
    ∃ first second both : Template,
      parse "cp $\x7b\x7b matrix.os \x7d\x7d \x7b" = .ok first ∧
      parse "\x7bx\x7d $\x7b\x7b toolchain \x7d\x7d" = .ok second ∧
      parse "cp $\x7b\x7b matrix.os \x7d\x7d \x7b\x7bx\x7d $\x7b\x7b toolchain \x7d\x7d" = .ok both ∧
      both.resolve ⟨0, .ofList [("os", "$\x7b\x7b toolchain \x7d\x7d")], .stable⟩ (.initial "/work") .empty =
        "cp $\x7b\x7b toolchain \x7d\x7d \x7b" ++ "\x7bx\x7d stable" := by
  have hs : parse "cp $\x7b\x7b matrix.os \x7d\x7d \x7b" =
      .ok ⟨[.literal "cp ", .placeholder (.matrix "os"), .literal " \x7b"]⟩ := by decide +kernel
  have ht : parse "\x7bx\x7d $\x7b\x7b toolchain \x7d\x7d" =
      .ok ⟨[.literal "\x7bx\x7d ", .placeholder .toolchain]⟩ := by decide +kernel
  obtain ⟨⟨both, hboth, -, hresolve⟩, -⟩ := resolve_append hs ht (by decide)
  refine ⟨_, _, both, hs, ht, hboth, ?_⟩
  rw [hresolve]
  decide

end JobMatrix.Template
