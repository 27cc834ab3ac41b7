import Stencil.Template.Compile

/-!
The grammar of templates, over the pieces of a source:

    Template := (text | simple tag | If | Each)*
    If       := if-tag Template (elseif-tag Template)* [else-tag Template] /if-tag
    Each     := each-tag Template [empty-tag Template] /each-tag

A derivation stands at a byte of the source and gives the blocks of its pieces: each part and each
block is what the pieces under its nonterminal cover. Nothing here counts or looks ahead.
-/

namespace Stencil.Template

open Stencil.Text Stencil.Tag

/-- The block that pieces from byte `start` on make. -/
def blockOf (start : Nat) (ps : List Piece) (content : Content) : Block :=
  .mk (.ofList (Piece.join ps)) ⟨start, start + Piece.total ps⟩ content

/-- The tag closes a block of the kind: a slash, and the block's word after it. -/
def Closes (nest : Nest) (inner : List Char) : Prop :=
  ∃ blanks, (∀ c ∈ blanks, isBlank c) ∧ Tag.body inner = '/' :: (blanks ++ nest.word.toList)

/-- The tag is an `elseif` with this condition. -/
def Continues (inner : List Char) (condition : Expression) : Prop :=
  ∃ rest, Tag.body inner = "elseif ".toList ++ rest ∧ readValue rest = .ok condition

mutual

/-- `Template` -/
inductive Derives : Nat → List Piece → List Block → Prop
  | nil (start : Nat) : Derives start [] []
  | text {start : Nat} {run : List Char} {ps : List Piece} {bs : List Block}
      (rest : Derives (start + Piece.bytes (.text run)) ps bs) :
      Derives start (.text run :: ps) (blockOf start [.text run] .literal :: bs)
  | simple {start : Nat} {inner : List Char} {content : Content} {ps : List Piece}
      {bs : List Block} (reads : leadOf inner = .ok (.simple content))
      (rest : Derives (start + Piece.bytes (.tag inner)) ps bs) :
      Derives start (.tag inner :: ps) (blockOf start [.tag inner] content :: bs)
  | conditional {start : Nat} {us ps : List Piece} {b : Block} {bs : List Block}
      (block : If start us b) (rest : Derives (start + Piece.total us) ps bs) :
      Derives start (us ++ ps) (b :: bs)
  | iteration {start : Nat} {us ps : List Piece} {b : Block} {bs : List Block}
      (block : Each start us b) (rest : Derives (start + Piece.total us) ps bs) :
      Derives start (us ++ ps) (b :: bs)

/-- `If` -/
inductive If : Nat → List Piece → Block → Prop
  | mk {start : Nat} {opening closing : List Char} {condition : Expression}
      {us vs ws : List Piece} {children : List Block} {branches : List Branch}
      {otherwise : Option Part} (opens : leadOf opening = .ok (.conditional condition))
      (first : Derives (start + Piece.bytes (.tag opening)) us children)
      (more : Elseifs (start + Piece.bytes (.tag opening) + Piece.total us) vs branches)
      (last : Last "else" (start + Piece.bytes (.tag opening) + Piece.total us + Piece.total vs) ws
        otherwise)
      (closes : Closes .conditional closing) :
      If start (.tag opening :: us ++ vs ++ ws ++ [.tag closing])
        (blockOf start (.tag opening :: us ++ vs ++ ws ++ [.tag closing])
          (.conditional
            (.mk condition (partOf (start + Piece.bytes (.tag opening)) us children) :: branches)
            otherwise))

/-- `(elseif-tag Template)*` -/
inductive Elseifs : Nat → List Piece → List Branch → Prop
  | nil (start : Nat) : Elseifs start [] []
  | cons {start : Nat} {divider : List Char} {condition : Expression} {us vs : List Piece}
      {children : List Block} {branches : List Branch} (divides : Continues divider condition)
      (part : Derives (start + Piece.bytes (.tag divider)) us children)
      (more : Elseifs (start + Piece.bytes (.tag divider) + Piece.total us) vs branches) :
      Elseifs start (.tag divider :: us ++ vs)
        (.mk condition (partOf (start + Piece.bytes (.tag divider)) us children) :: branches)

/-- `[else-tag Template]` or `[empty-tag Template]`, by the word that the tag consists of -/
inductive Last : String → Nat → List Piece → Option Part → Prop
  | none (word : String) (start : Nat) : Last word start [] none
  | some {word : String} {start : Nat} {divider : List Char} {us : List Piece}
      {children : List Block} (divides : Tag.body divider = word.toList)
      (part : Derives (start + Piece.bytes (.tag divider)) us children) :
      Last word start (.tag divider :: us)
        (some (partOf (start + Piece.bytes (.tag divider)) us children))

/-- `Each` -/
inductive Each : Nat → List Piece → Block → Prop
  | mk {start : Nat} {opening closing : List Char} {header : Header} {us ws : List Piece}
      {children : List Block} {empty : Option Part}
      (opens : leadOf opening = .ok (.iteration header))
      (first : Derives (start + Piece.bytes (.tag opening)) us children)
      (last : Last "empty" (start + Piece.bytes (.tag opening) + Piece.total us) ws empty)
      (closes : Closes .iteration closing) :
      Each start (.tag opening :: us ++ ws ++ [.tag closing])
        (blockOf start (.tag opening :: us ++ ws ++ [.tag closing])
          (.iteration header.item header.index header.collection
            (partOf (start + Piece.bytes (.tag opening)) us children) empty))

end

end Stencil.Template
