/-! Flags that change how the rest of a pattern is read. -/

namespace Decksmith.Pattern

/-- The flags that can be set in a pattern. Preferring short matches changes no answer to whether
there is a match, so that flag is read and forgotten. -/
structure Flags where
  ignoreCase : Bool := true
  multiLine : Bool := false
  dotAll : Bool := false
  unicode : Bool := true
  anyLineEnding : Bool := false
  spaced : Bool := false
deriving DecidableEq, Repr

namespace Flags

/-- The flags with the one that a letter stands for switched on or off. -/
def set? (flags : Flags) (letter : Char) (value : Bool) : Option Flags :=
  match letter with
  | 'i' => some { flags with ignoreCase := value }
  | 'm' => some { flags with multiLine := value }
  | 's' => some { flags with dotAll := value }
  | 'u' => some { flags with unicode := value }
  | 'R' => some { flags with anyLineEnding := value }
  | 'x' => some { flags with spaced := value }
  | 'U' => some flags
  | _ => none

/-- Reads flag letters up to a colon or a closing parenthesis and applies them. No letter and no minus
sign may come twice, and a minus sign has to have letters behind it. The result tells whether any
flag was read, whether a colon came, and what follows. -/
def read? (flags : Flags) (seen : List Char) (value : Bool) :
    List Char → Option (Flags × Bool × Bool × List Char)
  | [] => none
  | c :: rest =>
    if c = ':' ∨ c = ')' then
      if seen.head? = some '-' then none else some (flags, !seen.isEmpty, c == ':', rest)
    else if seen.contains c then none
    else if c = '-' then read? flags ('-' :: seen) false rest
    else
      match flags.set? c value with
      | none => none
      | some flags => read? flags (c :: seen) value rest

end Flags

end Decksmith.Pattern
