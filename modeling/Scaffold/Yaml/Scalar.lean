/-
# Scalars in YAML

A scalar is written plain, between quotes, or as a block below its indicator.
Breaks inside a scalar are folded: one break between words becomes a space, and
of several the first is dropped.  Literal blocks keep their breaks.

Each reader starts at the first character of the scalar and answers with its
text and the place behind it, or with nothing if the scalar is not well formed.
-/
import Scaffold.Text.Hex
import Scaffold.Yaml.Cursor

namespace Scaffold

namespace Yaml

/-! ## Blanks and breaks between words -/

/-- What stands between two words of a scalar. -/
structure Gap where
  /-- Blanks before the first break. -/
  blanks : Text := []
  /-- Whether there was a break. -/
  broken : Bool := false
  /-- The first break. -/
  first : Text := []
  /-- The breaks after the first. -/
  more : Text := []

/-- The text that a gap stands for. -/
def Gap.fold (g : Gap) : Text :=
  if g.broken then
    if g.first == ['\n'] then (if g.more.isEmpty then [' '] else g.more)
    else g.first ++ g.more
  else g.blanks

/-- Passes blanks and breaks.  `tabFree` forbids tabs in the indentation left of
that column. -/
def passGap (tabFree : Option Nat) : Nat → Cursor → Gap → Option (Gap × Cursor)
  | 0, c, g => some (g, c)
  | n + 1, c, g =>
    match c.rest with
    | [] => some (g, c)
    | d :: _ =>
      if isBlank d then
        if g.broken && d == '\t' && tabFree.any fun column => c.column < column then none
        else
          passGap tabFree n (c.pass 1)
            (if g.broken then g else { g with blanks := g.blanks ++ [d] })
      else if isBreak d then
        let b := breakText c.rest
        passGap tabFree n c.passBreak
          (if g.broken then { g with more := g.more ++ b }
           else { g with blanks := [], broken := true, first := b })
      else some (g, c)

def Cursor.gap (c : Cursor) (tabFree : Option Nat) (g : Gap) : Option (Gap × Cursor) :=
  passGap tabFree (c.rest.length + 1) c g

/-! ## Plain scalars -/

def isFlowIndicator (c : Char) : Bool :=
  c == ',' || c == '[' || c == ']' || c == '{' || c == '}'

/-- The next word of a plain scalar, which may be empty.  Between flow brackets
a colon must not stand right before an indicator. -/
def plainWord (inFlow : Bool) : Text → Option Text
  | [] => some []
  | c :: r =>
    if isBlankOrBreak c then some []
    else if c == ':' && inFlow && r.head?.any (fun d => isFlowIndicator d || d == '?') then none
    else if c == ':' && atBlankOrBreak r then some []
    else if inFlow && isFlowIndicator c then some []
    else (plainWord inFlow r).map (c :: ·)

/-- A scalar as read, and whether a line was begun behind it. -/
structure PlainScalar where
  text : Text
  after : Cursor
  newLine : Bool

/-- Reads a plain scalar word by word.  Outside flow brackets it ends where a
line starts left of column `indent`. -/
def plainFrom (inFlow : Bool) (indent : Nat) : Nat → Cursor → Text → Gap → Option PlainScalar
  | 0, c, t, g => some ⟨t, c, g.broken⟩
  | n + 1, c, t, g =>
    if c.atMark || c.rest.head? == some '#' then some ⟨t, c, g.broken⟩
    else
      match plainWord inFlow c.rest with
      | none => none
      | some word =>
        let c := c.pass word.length
        let t := if word.isEmpty then t else t ++ g.fold ++ word
        let g := if word.isEmpty then g else {}
        match c.rest with
        | [] => some ⟨t, c, g.broken⟩
        | d :: _ =>
          if !isBlankOrBreak d then some ⟨t, c, g.broken⟩
          else
            match c.gap (some indent) g with
            | none => none
            | some (g, c) =>
              if !inFlow && c.column < indent then some ⟨t, c, g.broken⟩
              else plainFrom inFlow indent n c t g

/-! ## Quoted scalars -/

/-- The value of hexadecimal digits. -/
def hexNumber? (ds : Text) : Option Nat :=
  ds.foldlM (fun n d => (Text.hexValue? d).map fun k => n * 16 + k) 0

/-- The character of `count` hexadecimal digits. -/
def escapedCode? (count : Nat) (r : Text) : Option Char :=
  let ds := r.take count
  if ds.length < count then none
  else
    match hexNumber? ds with
    | none => none
    | some n =>
      if (0xD800 ≤ n && n ≤ 0xDFFF) || n > 0x10FFFF then none else some (Char.ofNat n)

/-- The character of an escape and the number of characters behind the
backslash that it takes. -/
def escape? : Text → Option (Char × Nat)
  | [] => none
  | c :: r =>
    match c with
    | '0' => some ('\x00', 1)
    | 'a' => some ('\x07', 1)
    | 'b' => some ('\x08', 1)
    | 't' => some ('\t', 1)
    | '\t' => some ('\t', 1)
    | 'n' => some ('\n', 1)
    | 'v' => some ('\x0b', 1)
    | 'f' => some ('\x0c', 1)
    | 'r' => some ('\r', 1)
    | 'e' => some ('\x1b', 1)
    | ' ' => some (' ', 1)
    | '"' => some ('"', 1)
    | '/' => some ('/', 1)
    | '\\' => some ('\\', 1)
    | 'N' => some ('\u0085', 1)
    | '_' => some ('\u00a0', 1)
    | 'L' => some ('\u2028', 1)
    | 'P' => some ('\u2029', 1)
    | 'x' => (escapedCode? 2 r).map fun d => (d, 3)
    | 'u' => (escapedCode? 4 r).map fun d => (d, 5)
    | 'U' => (escapedCode? 8 r).map fun d => (d, 9)
    | _ => none

/-- How a word of a quoted scalar ends. -/
inductive WordEnd where
  /-- At the closing quote, a blank, a break or the end. -/
  | plain
  /-- At a break behind a backslash, which joins the lines. -/
  | joined

/-- The next word of a quoted scalar, which may be empty. -/
def quotedWord (single : Bool) : Nat → Cursor → Text → Option (Text × Cursor × WordEnd)
  | 0, c, t => some (t, c, .plain)
  | n + 1, c, t =>
    match c.rest with
    | [] => some (t, c, .plain)
    | d :: r =>
      if isBlankOrBreak d then some (t, c, .plain)
      else if single then
        match d, r with
        | '\'', '\'' :: _ => quotedWord single n (c.pass 2) (t ++ ['\''])
        | '\'', _ => some (t, c, .plain)
        | d, _ => quotedWord single n (c.pass 1) (t ++ [d])
      else if d == '"' then some (t, c, .plain)
      else if d == '\\' then
        if r.head?.any isBreak then some (t, (c.pass 1).passBreak, .joined)
        else
          match escape? r with
          | none => none
          | some (e, k) => quotedWord single n (c.pass (k + 1)) (t ++ [e])
      else quotedWord single n (c.pass 1) (t ++ [d])

/-- Reads a quoted scalar from behind its opening quote through its closing one. -/
def quotedFrom (single : Bool) : Nat → Cursor → Text → Option (Text × Cursor)
  | 0, _, _ => none
  | n + 1, c, t =>
    if c.atMark then none
    else
      match c.rest with
      | [] => none
      | _ =>
        match quotedWord single (c.rest.length + 1) c t with
        | none => none
        | some (t, c, wordEnd) =>
          if c.rest.head? == some (if single then '\'' else '"') then some (t, c.pass 1)
          else
            let g : Gap := match wordEnd with
              | .plain => {}
              | .joined => { broken := true }
            match c.gap none g with
            | none => none
            | some (g, c) => quotedFrom single n c (t ++ g.fold)

/-! ## Block scalars -/

/-- What happens to the breaks at the end of a block. -/
inductive Chomping where
  | clip
  | strip
  | keep

/-- The header of a block: chomping and indentation, in either order. -/
def blockHeader? (c : Cursor) : Option (Chomping × Nat × Cursor) :=
  let chomping? (c : Cursor) : Chomping × Cursor :=
    match c.rest with
    | '+' :: _ => (.keep, c.pass 1)
    | '-' :: _ => (.strip, c.pass 1)
    | _ => (.clip, c)
  let increment? (c : Cursor) : Option (Nat × Cursor) :=
    match c.rest with
    | d :: _ =>
      if d == '0' then none
      else if d.isDigit then some (d.toNat - 0x30, c.pass 1)
      else some (0, c)
    | [] => some (0, c)
  match c.rest with
  | [] => some (.clip, 0, c)
  | d :: _ =>
    if d == '+' || d == '-' then
      let (chomping, c) := chomping? c
      (increment? c).map fun (k, c) => (chomping, k, c)
    else
      match increment? c with
      | none => none
      | some (0, c) => some (.clip, 0, c)
      | some (k, c) =>
        let (chomping, c) := chomping? c
        some (chomping, k, c)

/-- Passes indentation and empty lines.  `indent` is the column of the block, or
zero while it is not known; then the widest indentation met is remembered. -/
def blockBreaks (indent : Nat) : Nat → Cursor → Nat → Text → Option (Nat × Text × Cursor)
  | 0, c, widest, breaks => some (widest, breaks, c)
  | n + 1, c, widest, breaks =>
    let spaces := c.rest.takeWhile fun d => d == ' '
    let c := c.pass (if indent = 0 then spaces.length else min spaces.length (indent - c.column))
    let widest := max widest c.column
    match c.rest with
    | [] => some (widest, breaks, c)
    | d :: _ =>
      if d == '\t' && (indent = 0 || c.column < indent) then none
      else if isBreak d then blockBreaks indent n c.passBreak widest (breaks ++ breakText c.rest)
      else some (widest, breaks, c)

/-- The lines of a block so far. -/
structure BlockState where
  text : Text := []
  /-- The break behind the last line. -/
  lead : Text := []
  /-- The breaks of the empty lines after it. -/
  trail : Text := []
  /-- Whether the last line started with a blank. -/
  leadingBlank : Bool := false

/-- The text before the next line: the breaks since the last one, folded unless
the block is literal or one of the two lines starts with a blank. -/
def BlockState.join (s : BlockState) (literal blank : Bool) : Text :=
  if !literal && s.lead == ['\n'] && !s.leadingBlank && !blank then
    (if s.trail.isEmpty then s.text ++ [' '] else s.text) ++ s.trail
  else s.text ++ s.lead ++ s.trail

/-- Reads the lines of a block. -/
def blockLines (literal : Bool) (indent : Nat) : Nat → Cursor → BlockState →
    Option (BlockState × Cursor)
  | 0, c, s => some (s, c)
  | n + 1, c, s =>
    if c.column != indent || c.rest.isEmpty then some (s, c)
    else
      let blank := c.rest.head?.any isBlank
      let line := c.rest.takeWhile fun d => !isBreak d
      let before := s.join literal blank
      let c := c.pass line.length
      let lead := breakText c.rest
      match blockBreaks indent (c.rest.length + 1) c.passBreak 0 [] with
      | none => none
      | some (_, trail, c) =>
        blockLines literal indent n c
          { text := before ++ line, lead := lead, trail := trail, leadingBlank := blank }

/-- Reads a block scalar from behind its indicator.  `parent` is the column of
the collection around it, or -1. -/
def blockScalar? (literal : Bool) (parent : Int) (c : Cursor) : Option (Text × Cursor) := do
  let (chomping, increment, c) ← blockHeader? c
  let c := c.passWhile isBlank
  let c := if c.rest.head? == some '#' then c.passLine else c
  if !atBreak c.rest then none
  let c := c.passBreak
  let fuel := c.rest.length + 1
  let given : Nat := if increment = 0 then 0 else (max parent 0).toNat + increment
  let (widest, trail, c) ← blockBreaks given fuel c 0 []
  let indent := if given = 0 then max (max widest (parent + 1).toNat) 1 else given
  let (s, c) ← blockLines literal indent fuel c { trail := trail }
  let text := match chomping with
    | .strip => s.text
    | .clip => s.text ++ s.lead
    | .keep => s.text ++ s.lead ++ s.trail
  return (text, c)

end Yaml

end Scaffold
