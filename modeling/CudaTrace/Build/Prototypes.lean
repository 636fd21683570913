import CudaTrace.Base.Pieces
import Mathlib.Data.Char
import Mathlib.Data.List.Lex

/-!
# The prototypes of the generated wrappers (build.rs)

Each line of the embedded list is taken apart into the name of a function, what stands before
it and its parameters, as lists of characters.
-/

namespace CudaTrace.Build
open CudaTrace.Base

/-- A `str` or a `String`, as its characters. -/
abbrev Text := List Char

structure WrapperPrototype where
  declPrefix : Text
  name : Text
  params : Text
  argNames : List Text
  deriving DecidableEq

/-! ### Manual hooks -/

def hookPrefix : Text := "pub unsafe extern \"C\" fn ".toList

/-- The name that a line of a hook file defines. -/
def manualHookName (symbolPrefix line : Text) : Option Text :=
  let line := trimmed line
  if hookPrefix.isPrefixOf line then
    let name := trimmed ((line.drop hookPrefix.length).takeWhile (· ≠ '('))
    if symbolPrefix.isPrefixOf name then some name else none
  else none

/-- `parse_manual_hook_names`; the set is the list of its members. -/
def parseManualHookNames (text symbolPrefix : Text) : List Text :=
  (linesAux [] text).filterMap (manualHookName symbolPrefix)

/-! ### Parameters -/

def voidText : Text := ['v', 'o', 'i', 'd']

/-- What follows the parenthesis that closes the innermost of `depth` open ones. -/
def closeParens : ℕ → Text → Option Text
  | _, [] => none
  | depth, c :: cs =>
    if c = '(' then closeParens (depth + 1) cs
    else if c = ')' then if depth = 1 then some cs else closeParens (depth - 1) cs
    else closeParens depth cs

/-- The loop of `remove_macro_invocation`, whose turns are bounded by `fuel`. -/
def removeInvocations (needle : Text) : ℕ → Text → Text
  | 0, s => s
  | fuel + 1, s =>
    match splitAtText needle s with
    | none => s
    | some (before, arguments) =>
      match closeParens 1 arguments with
      | none => s
      | some after => removeInvocations needle fuel (before ++ after)

def removeMacroInvocation (input macroName : Text) : Text :=
  removeInvocations (macroName ++ ['(']) input.length input

def collapseSpaces (s : Text) : Text := collapsed s

def macroName : Text := ['_', '_', 'd', 'v']

/-- A parameter without its default. -/
def withoutDefault (param : Text) : Text :=
  let p := removeMacroInvocation param macroName
  if '=' ∈ p then trimmed (p.takeWhile (· ≠ '=')) else p

/-- What a piece between commas becomes; `none` is left out. -/
def sanitizeParam (raw : Text) : Option Text :=
  let p := trimmed raw
  if p = [] ∨ p = voidText then none
  else
    let p := collapseSpaces (withoutDefault p)
    if p = [] ∨ p = voidText then none else some p

def sanitizeParams (params : Text) : Text :=
  if trimmed params = [] ∨ trimmed params = voidText then []
  else [',', ' '].intercalate ((params.splitOn ',').filterMap sanitizeParam)

def isWordChar (c : Char) : Bool := c.isAlphanum || c = '_'

/-- `u8::is_ascii_whitespace`. -/
def isAsciiWhitespace (c : Char) : Bool := c ∈ [' ', '\t', '\n', '\x0c', '\r']

def extractParamName (param : Text) : Option Text :=
  let kept := param.reverse.dropWhile isAsciiWhitespace
  let name := kept.takeWhile isWordChar
  if name = [] then none else some name.reverse

/-- The parameter of a piece between commas, where it is one. -/
def paramOf (raw : Text) : Option Text :=
  let param := trimmed raw
  if param = [] ∨ param = voidText then none else some param

/-- `parse_param_names`; `none` is the error. -/
def parseParamNames (params : Text) : Option (List Text) :=
  if trimmed params = [] ∨ trimmed params = voidText then some []
  else ((params.splitOn ',').filterMap paramOf).mapM extractParamName

/-! ### Lines -/

/-- What stands before the last occurrence of the pattern. -/
def beforeLast (pat : Text) : Text → Option Text
  | [] => if pat = [] then some [] else none
  | c :: cs =>
    match beforeLast pat cs with
    | some before => some (c :: before)
    | none => if pat.isPrefixOf (c :: cs) then some [] else none

/-- What stands between the first opening and the last closing parenthesis, and before it. -/
def splitParens (line : Text) : Option (Text × Text) :=
  match line.dropWhile (· ≠ '(') with
  | [] => none
  | _ :: rest =>
    match rest.reverse.dropWhile (· ≠ ')') with
    | [] => none
    | _ :: inside => some (line.takeWhile (· ≠ '('), inside.reverse)

/-- A line that names a prefixed function and has a return type before it. -/
structure Candidate where
  declPrefix : Text
  name : Text
  paramsRaw : Text

def trimSemicolons (line : Text) : Text := (line.reverse.dropWhile (· = ';')).reverse

def candidate (symbolPrefix raw : Text) : Option Candidate := do
  let (before, inside) ← splitParens (trimSemicolons (trimmed raw))
  let beforeParen := trimmed before
  let name ← (wordsAux [] beforeParen).getLast?
  if ¬symbolPrefix.isPrefixOf name then none
  else
    let declPrefix := trimmed (← beforeLast name beforeParen)
    if declPrefix = [] then none
    else some ⟨declPrefix, name, trimmed inside⟩

/-- The wrapper of a candidate whose parameters parse. -/
def Candidate.wrapper (c : Candidate) : Option WrapperPrototype :=
  let params := sanitizeParams c.paramsRaw
  (parseParamNames params).map fun argNames => ⟨c.declPrefix, c.name, params, argNames⟩

/-- The loop over the lines, with the names that it has inserted into `seen`. -/
def collectWrappers (manual : List Text) (symbolPrefix : Text) :
    List Text → List Text → List WrapperPrototype
  | _, [] => []
  | seen, raw :: rest =>
    match candidate symbolPrefix raw with
    | none => collectWrappers manual symbolPrefix seen rest
    | some c =>
      if c.name ∈ manual ∨ c.name ∈ seen then collectWrappers manual symbolPrefix seen rest
      else
        match c.wrapper with
        | none => collectWrappers manual symbolPrefix (c.name :: seen) rest
        | some w => w :: collectWrappers manual symbolPrefix (c.name :: seen) rest

def parseMissingPrototypes (text : Text) (manual : List Text) (symbolPrefix : Text) :
    List WrapperPrototype :=
  (collectWrappers manual symbolPrefix [] (linesAux [] text)).mergeSort fun a b => a.name ≤ b.name

end CudaTrace.Build
