import FlagDecision.Number.Word64
import FlagDecision.Text.Blank

/-!
References to campaigns inside mutually exclusive groups: a campaign, or one variation of it.
-/

namespace FlagDecision

open Text

/-- A campaign, or one of its variations, as a member of a group. -/
structure GroupMember where
  campaignId : Nat
  variationId : Option Nat
  deriving DecidableEq, Repr

namespace GroupMember

/-- The campaign as a whole. -/
def plain (m : GroupMember) : GroupMember := ⟨m.campaignId, none⟩

/-- The written form: `12`, or `12_3` with a variation. -/
def text (m : GroupMember) : String :=
  match m.variationId with
  | some v => toString m.campaignId ++ "_" ++ toString v
  | none => toString m.campaignId

/-- Why a text is no member: the whole text. -/
structure ParseError where
  input : String
  deriving DecidableEq, Repr

/-- What is said about it. -/
def ParseError.message (e : ParseError) : String :=
  "invalid group member identifier '" ++ e.input ++ "'"

/-- Read a member: one identifier, or two around the first underscore, with white space around
each. -/
def parse (s : String) : Except ParseError GroupMember :=
  let chars := s.toList
  let member :=
    match splitFirst? '_' chars with
    | some (campaign, variation) => do
      let c ← readWord64? (trim campaign)
      let v ← readWord64? (trim variation)
      some ⟨c, some v⟩
    | none => (readWord64? (trim chars)).map (⟨·, none⟩)
  match member with
  | some m => .ok m
  | none => .error ⟨s⟩

/-- Read a member, without the error. -/
def parse? (s : String) : Option GroupMember := (parse s).toOption

end GroupMember

end FlagDecision
