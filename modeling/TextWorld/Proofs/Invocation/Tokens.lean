import TextWorld.Invocation
import TextWorld.Proofs.Entity.Grammar
import TextWorld.Proofs.Literal.Grammar

/-!
# Tokens are cut off between characters

The readers of ids and of literals count the bytes of a token and cut the text
there.  What they count ends just behind the last digit of an id, or behind the
quote that closes a literal.  So they never cut a character in two, and the
token and the rest of the text can be told without bytes.
-/

namespace TextWorld.VerbCall

open TextWorld.Text

variable {characters rest : List Char}

/-- A written id is `#` with all digits that follow it. -/
theorem readEntity_of_mark (source : List Char)
    (starts : trimStart characters = '#' :: rest) :
    readEntity source characters =
      match EntityId.ofCharacters? ('#' :: rest.takeWhile Char.isDigit) with
      | some id => .ok (id, rest.dropWhile Char.isDigit)
      | none => .error (unexpected source "entity literal" ('#' :: rest)) := by
  have cut := EntityId.splitAtByte?_tokenLength rest
  simp only [EntityId.tokenLength?, Option.bind_some] at cut
  simp only [readEntity, starts, EntityId.tokenLength?, cutAt, cut,
    bind, Except.bind]
  rfl

/-- Nothing else is a written id. -/
theorem readEntity_of_no_mark
    (source : List Char)
    (noMark : ∀ rest, trimStart characters ≠ '#' :: rest) :
    readEntity source characters =
      .error (unexpected source "entity literal" (trimStart characters)) := by
  have nothing : EntityId.tokenLength? (trimStart characters) = none := by
    unfold EntityId.tokenLength?
    split
    · next rest starts => exact absurd starts (noMark rest)
    · rfl
  simp only [readEntity, nothing]

/-- A literal is what the scanner takes off the start of the text. -/
theorem readLiteral_eq (source characters : List Char) :
    readLiteral source characters =
      match Literal.leadingLiteral (trimStart characters) with
      | some literal => do
          let value ← Literal.decode (String.ofList literal)
          return (value, (trimStart characters).drop literal.length)
      | none =>
          .error
            (unexpected source "string literal" (trimStart characters)) := by
  have cut :=
    Literal.splitAtByte?_literalLength (String.ofList (trimStart characters))
  rw [String.toList_ofList] at cut
  simp only [readLiteral, Literal.literalLength, String.toList_ofList] at cut ⊢
  cases leads : Literal.leadingLiteral (trimStart characters) with
  | none => rfl
  | some literal =>
      simp only [leads, Option.map_some, Option.bind_some] at cut ⊢
      simp only [cutAt, cut, bind, Except.bind]

end TextWorld.VerbCall
