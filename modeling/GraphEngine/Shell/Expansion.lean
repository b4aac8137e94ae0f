import GraphEngine.Shell.Machine

/-!
What words come to: parameters get their values, scripts in words are run, and what came from a
value outside quotes is cut at blanks.
-/
namespace GraphEngine.Shell

/-- A character that words come to. -/
inductive Glyph where
  /-- What is not quoted may stand for something else in a pattern; a value may also be cut. -/
  | char (c : Char) (isQuoted mayBeCut : Bool)
  /-- Quotes, which make a field even of nothing. -/
  | mark
  /-- The border between two arguments. -/
  | border
deriving DecidableEq

namespace Glyph

def ofText (isQuoted : Bool) (text : String) : List Glyph :=
  text.toList.map (.char · isQuoted (! isQuoted))

/-- All arguments, each a field of its own. -/
def ofArguments (isQuoted : Bool) (arguments : List String) : List Glyph :=
  let opening := if isQuoted then [mark] else []
  List.intercalate [border] (arguments.map fun text => opening ++ ofText isQuoted text)

def text (glyphs : List Glyph) : String :=
  String.ofList (glyphs.filterMap fun glyph => match glyph with
    | .char c _ _ => some c
    | _ => none)

/-- The fields that are cut out of the glyphs, the first of which may have begun. -/
def fieldsFrom (separators : List Char) : Option (List Char) → List Glyph → List String
  | current, [] => (current.map fun chars => String.ofList chars.reverse).toList
  | current, glyph :: rest =>
      let closed := (current.map fun chars => String.ofList chars.reverse).toList
      match glyph with
      | .mark => fieldsFrom separators (some (current.getD [])) rest
      | .border => closed ++ fieldsFrom separators none rest
      | .char c _ mayBeCut =>
          if mayBeCut && separators.contains c then closed ++ fieldsFrom separators none rest
          else fieldsFrom separators (some (c :: current.getD [])) rest

end Glyph

/-- Patterns for texts: a star stands for any text, a question mark for any character, and brackets
for one of several characters. -/
inductive Pattern where
  | exactly (c : Char)
  | one
  | run
  | oneOf (isNegated : Bool) (ranges : List (Char × Char))

namespace Pattern

/-- What stands in brackets, up to the closing one. -/
def ranges : List Glyph → List (Char × Char)
  | .char first _ _ :: .char '-' false _ :: .char last _ _ :: rest => (first, last) :: ranges rest
  | .char c _ _ :: rest => (c, c) :: ranges rest
  | _ => []

def isClosing : Glyph → Bool
  | .char ']' false _ => true
  | _ => false

/-- The members of the brackets after the opening one, if they are closed. -/
def brackets? (glyphs : List Glyph) : Option (List Glyph × List Glyph) :=
  let inside := (glyphs.drop 1).takeWhile (! isClosing ·)
  if inside.length + 1 < glyphs.length then
    some (glyphs.take (inside.length + 1), glyphs.drop (inside.length + 2))
  else none

def ofGlyphsUpTo : Nat → List Glyph → List Pattern
  | 0, _ | _, [] => []
  | limit + 1, .char '*' false _ :: rest => run :: ofGlyphsUpTo limit rest
  | limit + 1, .char '?' false _ :: rest => one :: ofGlyphsUpTo limit rest
  | limit + 1, .char '[' false _ :: rest =>
      match brackets? rest with
      | some (.char '!' false _ :: inside, rest) =>
          oneOf true (ranges inside) :: ofGlyphsUpTo limit rest
      | some (inside, rest) => oneOf false (ranges inside) :: ofGlyphsUpTo limit rest
      | none => exactly '[' :: ofGlyphsUpTo limit rest
  | limit + 1, .char c _ _ :: rest => exactly c :: ofGlyphsUpTo limit rest
  | limit + 1, _ :: rest => ofGlyphsUpTo limit rest

def ofGlyphs (glyphs : List Glyph) : List Pattern := ofGlyphsUpTo (glyphs.length + 1) glyphs

def covers (c : Char) : Pattern → Bool
  | .exactly other => c = other
  | .one | .run => true
  | .oneOf isNegated ranges =>
      ranges.any (fun (first, last) => first ≤ c && c ≤ last) != isNegated

def isMatch : List Pattern → List Char → Bool
  | [], text => text.isEmpty
  | .run :: pattern, [] => isMatch pattern []
  | .run :: pattern, c :: text => isMatch pattern (c :: text) || isMatch (.run :: pattern) text
  | _ :: _, [] => false
  | part :: pattern, c :: text => part.covers c && isMatch pattern text
termination_by pattern text => pattern.length + text.length

/-- The text without what the pattern matches at one end. -/
def trim (pattern : List Pattern) (fromEnd isLongest : Bool) (text : List Char) : List Char :=
  let upwards := List.range (text.length + 1)
  let cuts := if fromEnd = isLongest then upwards else upwards.reverse
  let cut? := cuts.find? fun cut =>
    isMatch pattern (if fromEnd then text.drop cut else text.take cut)
  match cut? with
  | none => text
  | some cut => if fromEnd then text.take cut else text.drop cut

end Pattern

/-- What a word needs from whoever runs scripts. -/
structure Expander where
  /-- What a script prints, run in a shell of its own. -/
  output : Command → Effect String

namespace Expander

open Effect

variable (expander : Expander)

/-- The value of a parameter, where lists are joined. -/
def parameter? (name : String) : Effect (Option String) := do
  let state ← state
  match name with
  | "#" => return some (toString state.arguments.length)
  | "?" => return some (toString state.status)
  | "$" => return some (toString processNumber)
  | "-" => return some (if state.endsOnFailure then "e" else "")
  | "@" | "*" => return some (" ".intercalate state.arguments)
  | name =>
      match name.toNat? with
      | some 0 => return some state.name
      | some index => return state.arguments[index - 1]?
      | none => return state.bindings[name]?.map (·.value)

/-- Output without the line ends at its end. -/
def chomp (text : String) : String :=
  String.ofList (text.toList.reverse.dropWhile (· = '\n')).reverse

/-- What stands outside quotes may be cut like a value. -/
def cuttable (isQuoted : Bool) (glyphs : List Glyph) : List Glyph :=
  glyphs.map fun glyph => match glyph with
    | .char c false _ => .char c false (! isQuoted)
    | glyph => glyph

/-- The glyphs of a value. Lists become several fields, unless they are quoted as one. -/
def valueGlyphs (isQuoted : Bool) (name value : String) : Effect (List Glyph) := do
  if name = "@" ∨ (name = "*" ∧ ! isQuoted) then
    return Glyph.ofArguments isQuoted (← state).arguments
  else return Glyph.ofText isQuoted value

/-- What a parameter in use comes to. `glyphs` is for the words inside. -/
def parameterGlyphs (glyphs : Word → Effect (List Glyph)) (isQuoted : Bool) (name : String)
    (use : Use) : Effect (List Glyph) := do
  let value? ← parameter? name
  let value := value?.getD ""
  match use with
  | .value => valueGlyphs isQuoted name value
  | .length => return Glyph.ofText isQuoted (toString value.length)
  | .trim fromEnd isLongest pattern => do
      let pattern := Pattern.ofGlyphs (← glyphs pattern)
      let left := Pattern.trim pattern fromEnd isLongest value.toList
      return Glyph.ofText isQuoted (String.ofList left)
  | .fallback kind coversEmpty word => do
      let isGiven := value?.isSome && ! (coversEmpty && value = "")
      match kind, isGiven with
      | .alternative, true | .default, false => return cuttable isQuoted (← glyphs word)
      | .alternative, false => return []
      | _, true => valueGlyphs isQuoted name value
      | .assign, false => do
          let value := Glyph.text (← glyphs word)
          if ! Word.isName name then fault (name ++ ": bad variable name")
          setVariable name value
          return Glyph.ofText isQuoted value
      | .complain, false => do
          let reason := Glyph.text (← glyphs word)
          fault (name ++ ": " ++ if reason ≠ "" then reason
            else "parameter not set" ++ if coversEmpty then " or null" else "")

/-- What the parts of a word come to, words inside words up to a depth. -/
def glyphs : Nat → Word → Effect (List Glyph)
  | 0, _ => fault "too deep"
  | depth + 1, word => do
      let pieces ← word.mapM fun (part : Part) => do
        match part with
        | .char c isQuoted => return [Glyph.char c isQuoted false]
        | .quotes => return [.mark]
        | .parameter name isQuoted use => parameterGlyphs (glyphs depth) isQuoted name use
        | .output script isQuoted =>
            return Glyph.ofText isQuoted (chomp (← expander.output script))
      return pieces.flatten

def depthLimit : Nat := 200

/-- The text of a word that stays one field. -/
def text (word : Word) : Effect String := do return Glyph.text (← expander.glyphs depthLimit word)

def pattern (word : Word) : Effect (List Pattern) := do
  return Pattern.ofGlyphs (← expander.glyphs depthLimit word)

/-- The fields of a word, none or more. -/
def fields (word : Word) : Effect (List String) := do
  let separators := ((← valueOf "IFS").getD " \t\n").toList
  return Glyph.fieldsFrom separators none (← expander.glyphs depthLimit word)

end Expander
end GraphEngine.Shell
