import AccessPolicy.Text.Letter
import AccessPolicy.Pattern.Token

namespace AccessPolicy.Pattern

/-- The flags to turn on and off in a group; none when the flags were for the whole pattern. -/
abbrev Switches := Option (Flags × Flags)

/-- Refuses a piece that is no flag. -/
def refuseFlag {α : Type} (token : Token) (otherwise : Problem) : Reader α := do
  let problem := match token with
    | .plain _ c => if Text.isLetter c then .unknownFlag else otherwise
    | _ => otherwise
  fail problem token.chars.length

/-- The flag of a piece. -/
def flagOf? : Token → Option Flag
  | .plain _ c => Flag.ofChar? c
  | _ => none

/-- Whether a flag is for the whole pattern only. -/
def Flag.isGlobal (f : Flag) : Bool := f == .template

/-- The flags to turn on, beginning with a given one, and the piece that ends them. -/
def flagsOn : Nat → Flag → Flags → Reader (Flags × Token)
  | 0, _, _ => fail .missingFlagEnd 0
  | fuel + 1, flag, on => do
    if flag == .byLocale then fail .localeFlag 0
    else
      let on := on ++ [flag]
      if flag.isKind && on.any fun f => f.isKind && f != flag then fail .conflictingFlags 0
      else
        match ← take with
        | none => fail .missingFlagEnd 0
        | some token =>
          if token.isAmong [')', '-', ':'] then return (on, token)
          else
            match flagOf? token with
            | some next => flagsOn fuel next on
            | none => refuseFlag token .missingFlagEnd

/-- The flags to turn off, beginning with a given one, up to a colon. -/
def flagsOff : Nat → Flag → Flags → Reader Flags
  | 0, _, _ => fail .missingColon 0
  | fuel + 1, flag, off => do
    if flag.isKind then fail .kindFlagOff 0
    else
      let off := off ++ [flag]
      match ← take with
      | none => fail .missingColon 0
      | some token =>
        if token.isAmong [':'] then return off
        else
          match flagOf? token with
          | some next => flagsOff fuel next off
          | none => refuseFlag token .missingColon

/-- The flags behind a minus sign. -/
def takeOff : Reader Flags := do
  match ← take with
  | none => fail .missingFlag 0
  | some token =>
    match flagOf? token with
    | some flag => flagsOff ((← get).left.length + 1) flag []
    | none => refuseFlag token .missingFlag

/-- The flags that a piece begins: a flag to turn on, or a minus sign before those to turn off. -/
def takeSwitches (token : Token) : Reader Switches := do
  let (on, stop) ← match flagOf? token with
    | some flag => flagsOn ((← get).left.length + 1) flag []
    | none => pure ([], token)
  if stop.isAmong [')'] then
    modify fun s => { s with flags := s.flags ++ on }
    return none
  else if on.any Flag.isGlobal then fail .globalFlagOn 1
  else
    let off ← if stop.isAmong ['-'] then takeOff else pure []
    if off.any Flag.isGlobal then fail .globalFlagOff 1
    else if on.any off.contains then fail .contraryFlags 1
    else return some (on, off)

end AccessPolicy.Pattern
