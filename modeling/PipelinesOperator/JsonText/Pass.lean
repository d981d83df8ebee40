import PipelinesOperator.JsonText.Number

/-!
# Passing over a value

The value of a member that nobody asks for is passed over.  Its form is checked, but
neither the surrogates in its strings, nor the size of its numbers, nor how deep it nests;
and a comma before a closing bracket is a missing value or a missing key.
-/

namespace PipelinesOperator.JsonText

mutual

/-- Passes over a value.  Every step takes a character, so as many steps as there are
characters are enough. -/
def pass : Nat → Cursor → Except Break Cursor
  | 0, c => .error (c.broken .endInValue)
  | n + 1, c =>
    let c := c.skipBlanks
    match c.rest with
    | [] => .error (c.broken .endInValue)
    | h :: rest =>
      let next : Cursor := ⟨c.index + 1, rest⟩
      if h = 'n' then word next.index ['u', 'l', 'l'] rest
      else if h = 't' then word next.index ['r', 'u', 'e'] rest
      else if h = 'f' then word next.index ['a', 'l', 's', 'e'] rest
      else if h = '-' then passNumber next
      else if h.isDigit then passNumber c
      else if h = '"' then passString next.index rest
      else if h = '[' then
        let c := next.skipBlanks
        match c.rest with
        | [] => .error (c.broken .endInList)
        | ']' :: rest => .ok ⟨c.index + 1, rest⟩
        | _ :: _ => passItem n c
      else if h = '\x7b' then
        let c := next.skipBlanks
        match c.rest with
        | [] => .error (c.broken .endInObject)
        | '\x7d' :: rest => .ok ⟨c.index + 1, rest⟩
        | _ :: _ => passMember n c
      else .error (c.broken .valueExpected)

/-- Passes over an item and those behind it, up to the closing bracket. -/
def passItem : Nat → Cursor → Except Break Cursor
  | 0, c => .error (c.broken .endInValue)
  | n + 1, c => do
    let c := (← pass n c).skipBlanks
    match c.rest with
    | [] => .error (c.broken .endInList)
    | ']' :: rest => .ok ⟨c.index + 1, rest⟩
    | ',' :: rest => passItem n ⟨c.index + 1, rest⟩
    | _ :: _ => .error (c.broken .listCommaExpected)

/-- Passes over a member and those behind it, up to the closing brace. -/
def passMember : Nat → Cursor → Except Break Cursor
  | 0, c => .error (c.broken .endInValue)
  | n + 1, c => do
    let c := c.skipBlanks
    let behindKey ← match c.rest with
      | [] => .error (c.broken .endInObject)
      | '"' :: rest => passString (c.index + 1) rest
      | _ :: _ => .error (c.broken .keyNotString)
    let c := behindKey.skipBlanks
    let behindColon ← match c.rest with
      | [] => .error (c.broken .endInObject)
      | ':' :: rest => .ok (⟨c.index + 1, rest⟩ : Cursor)
      | _ :: _ => .error (c.broken .colonExpected)
    let c := (← pass n behindColon).skipBlanks
    match c.rest with
    | [] => .error (c.broken .endInObject)
    | '\x7d' :: rest => .ok ⟨c.index + 1, rest⟩
    | ',' :: rest => passMember n ⟨c.index + 1, rest⟩
    | _ :: _ => .error (c.broken .objectCommaExpected)

end

/-- Passes over a value that begins at the cursor. -/
def passValue (c : Cursor) : Except Break Cursor := pass (2 * c.rest.length + 2) c

end PipelinesOperator.JsonText
