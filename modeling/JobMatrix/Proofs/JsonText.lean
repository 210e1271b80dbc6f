import JobMatrix.JsonValue
import JobMatrix.Text.Digits

/-!
The grammar of JSON texts, and the layout of a document as one of them. Blanks may stand around every value and every
name. A character of a string stands for itself, or is given by a letter or by its number.
-/
namespace JobMatrix.JsonValue

def IsBlank (text : List Char) : Prop := ∀ c ∈ text, c ∈ [' ', '\t', '\n', '\r']

def escapeLetters : List (Char × Char) :=
  [('"', '"'), ('\\', '\\'), ('/', '/'), ('b', '\x08'), ('f', '\x0c'), ('n', '\n'), ('r', '\r'), ('t', '\t')]

inductive SpellsChar : Char → List Char → Prop
  | itself {c : Char} (printable : 32 ≤ c.toNat) (quote : c ≠ '"') (backslash : c ≠ '\\') : SpellsChar c [c]
  | letter {c letter : Char} (known : (letter, c) ∈ escapeLetters) : SpellsChar c ['\\', letter]
  | number {c : Char} {digits : List Char} (four : digits.length = 4)
      (value : Text.naturalIn? 16 digits = some c.toNat) : SpellsChar c ('\\' :: 'u' :: digits)

inductive SpellsChars : List Char → List Char → Prop
  | nil : SpellsChars [] []
  | cons {c : Char} {chars text more : List Char} (first : SpellsChar c text) (later : SpellsChars chars more) :
      SpellsChars (c :: chars) (text ++ more)

inductive SpellsString (s : String) : List Char → Prop
  | quoted {text : List Char} (inner : SpellsChars s.toList text) : SpellsString s ('"' :: text ++ ['"'])

mutual

/-- The text is one of those that stand for the value. -/
inductive Spells : JsonValue → List Char → Prop
  | null : Spells .null "null".toList
  | bool (b : Bool) : Spells (.bool b) (if b then "true" else "false").toList
  | natural (n : Nat) : Spells (.number n) (Nat.toDigits 10 n)
  | negative (n : Nat) : Spells (.number (Int.negSucc n)) ('-' :: Nat.toDigits 10 (n + 1))
  | string {s : String} {text : List Char} (quoted : SpellsString s text) : Spells (.string s) text
  | emptyArray {blank : List Char} (hb : IsBlank blank) : Spells (.array []) ('[' :: blank ++ [']'])
  | array {items : List JsonValue} {text blank : List Char} (spells : SpellsItems items text) (hb : IsBlank blank) :
      Spells (.array items) ('[' :: text ++ blank ++ [']'])
  | emptyObject {blank : List Char} (hb : IsBlank blank) : Spells (.object []) ('\x7b' :: blank ++ ['\x7d'])
  | object {fields : List (String × JsonValue)} {text blank : List Char} (spells : SpellsFields fields text)
      (hb : IsBlank blank) : Spells (.object fields) ('\x7b' :: text ++ blank ++ ['\x7d'])
  | padded {v : JsonValue} {before text after : List Char} (hb : IsBlank before) (spells : Spells v text)
      (ha : IsBlank after) : Spells v (before ++ text ++ after)

inductive SpellsItems : List JsonValue → List Char → Prop
  | one {v : JsonValue} {text : List Char} (spells : Spells v text) : SpellsItems [v] text
  | cons {v : JsonValue} {rest : List JsonValue} {text more : List Char} (first : Spells v text)
      (later : SpellsItems rest more) : SpellsItems (v :: rest) (text ++ ',' :: more)

inductive SpellsFields : List (String × JsonValue) → List Char → Prop
  | one {name : String} {v : JsonValue} {text : List Char} (spells : SpellsField name v text) :
      SpellsFields [(name, v)] text
  | cons {name : String} {v : JsonValue} {rest : List (String × JsonValue)} {text more : List Char}
      (first : SpellsField name v text) (later : SpellsFields rest more) :
      SpellsFields ((name, v) :: rest) (text ++ ',' :: more)

inductive SpellsField : String → JsonValue → List Char → Prop
  | named {name : String} {v : JsonValue} {before quoted after text : List Char} (hb : IsBlank before)
      (called : SpellsString name quoted) (ha : IsBlank after) (given : Spells v text) :
      SpellsField name v (before ++ quoted ++ after ++ ':' :: text)

end

theorem isBlank_nil : IsBlank [] := List.forall_mem_nil _

theorem isBlank_lineStart (depth : Nat) : IsBlank (lineStart depth).toList := by
  intro c hc
  have hchars : (lineStart depth).toList = '\n' :: List.replicate (2 * depth) ' ' := by simp [lineStart]
  rw [hchars, List.mem_cons, List.mem_replicate] at hc
  rcases hc with rfl | ⟨-, rfl⟩ <;> decide

theorem naturalIn?_hexDigits : ∀ n < 32,
    Text.naturalIn? 16 ['0', '0', Nat.digitChar (n / 16), Nat.digitChar (n % 16)] = some n := by decide

theorem spellsChar_escapedChar (c : Char) : SpellsChar c (escapedChar c) := by
  unfold escapedChar
  split
  · exact .letter (by decide)
  · exact .letter (by decide)
  · exact .letter (by decide)
  · exact .letter (by decide)
  · exact .letter (by decide)
  · next hquote hbackslash hline hreturn htab =>
    dsimp only
    split
    · next hb =>
      obtain rfl : c = '\x08' := Char.toNat_inj.mp hb
      exact .letter (by decide)
    split
    · next hf =>
      obtain rfl : c = '\x0c' := Char.toNat_inj.mp hf
      exact .letter (by decide)
    split
    · next hcontrol => exact .number rfl (naturalIn?_hexDigits _ hcontrol)
    · next hcontrol => exact .itself (Nat.le_of_not_lt hcontrol) hquote hbackslash

theorem spellsChars_flatMap (chars : List Char) : SpellsChars chars (chars.flatMap escapedChar) := by
  induction chars with
  | nil => exact .nil
  | cons c rest ih => exact .cons (spellsChar_escapedChar c) ih

theorem spellsString_stringText (s : String) : SpellsString s (stringText s).toList := by
  rw [stringText, String.toList_ofList]
  exact .quoted (spellsChars_flatMap s.toList)

theorem spells_number (n : Int) : Spells (.number n) (toString n).toList := by
  cases n with
  | ofNat n =>
    have htext : (toString (Int.ofNat n)).toList = Nat.toDigits 10 n := by
      simp [toString, Int.repr, Nat.repr]
    rw [htext]
    exact .natural n
  | negSucc n =>
    have htext : (toString (Int.negSucc n)).toList = '-' :: Nat.toDigits 10 (n + 1) := by
      simp [toString, Int.repr, Nat.repr]
    rw [htext]
    exact .negative n

theorem isBlank_space : IsBlank [' '] := List.forall_mem_singleton.mpr List.mem_cons_self

mutual

theorem spells_layout (depth : Nat) : (v : JsonValue) → v.Spells (v.layout depth).toList
  | .null => by simpa [layout] using Spells.null
  | .bool b => by
    cases b with
    | true => exact .bool true
    | false => exact .bool false
  | .number n => spells_number n
  | .string s => by simpa [layout] using Spells.string (spellsString_stringText s)
  | .array [] => by simpa [layout] using Spells.emptyArray isBlank_nil
  | .array (v :: rest) => by
    have hitems := spells_layoutItems (depth + 1) (v :: rest) (List.cons_ne_nil v rest)
    simpa [layout] using Spells.array hitems (isBlank_lineStart depth)
  | .object [] => by simpa [layout] using Spells.emptyObject isBlank_nil
  | .object (field :: rest) => by
    have hfields := spells_layoutFields (depth + 1) (field :: rest) (List.cons_ne_nil field rest)
    simpa [layout] using Spells.object hfields (isBlank_lineStart depth)

theorem spells_layoutItems (depth : Nat) : (items : List JsonValue) → items ≠ [] →
    SpellsItems items (Text.joinWith "," (layoutItems depth items)).toList
  | [], h => absurd rfl h
  | [v], _ => by
    have hv := Spells.padded (isBlank_lineStart depth) (spells_layout depth v) isBlank_nil
    simpa [layoutItems, Text.joinWith] using SpellsItems.one hv
  | v :: w :: rest, _ => by
    have hv := Spells.padded (isBlank_lineStart depth) (spells_layout depth v) isBlank_nil
    have hrest := spells_layoutItems depth (w :: rest) (List.cons_ne_nil w rest)
    simpa [layoutItems, Text.joinWith] using SpellsItems.cons hv hrest

theorem spells_layoutFields (depth : Nat) : (fields : List (String × JsonValue)) → fields ≠ [] →
    SpellsFields fields (Text.joinWith "," (layoutFields depth fields)).toList
  | [], h => absurd rfl h
  | [(name, v)], _ => by
    have hv := Spells.padded isBlank_space (spells_layout depth v) isBlank_nil
    have hfield := SpellsField.named (isBlank_lineStart depth) (spellsString_stringText name) isBlank_nil hv
    simpa [layoutFields, Text.joinWith] using SpellsFields.one hfield
  | (name, v) :: next :: rest, _ => by
    have hv := Spells.padded isBlank_space (spells_layout depth v) isBlank_nil
    have hfield := SpellsField.named (isBlank_lineStart depth) (spellsString_stringText name) isBlank_nil hv
    have hrest := spells_layoutFields depth (next :: rest) (List.cons_ne_nil next rest)
    simpa [layoutFields, Text.joinWith] using SpellsFields.cons hfield hrest

end

/-- The document over several lines is a text of the grammar, and stands for the value. -/
theorem spells_pretty (v : JsonValue) : v.Spells v.pretty.toList := spells_layout 0 v

example : (object [("code", number (-2)), ("said", string "a\"b"), ("more", array [null, array []])]).pretty =
    "\x7b\n  \"code\": -2,\n  \"said\": \"a\\\"b\",\n  \"more\": [\n    null,\n    []\n  ]\n\x7d" := by
  decide +kernel

end JobMatrix.JsonValue
