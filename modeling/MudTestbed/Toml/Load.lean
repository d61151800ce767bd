import MudTestbed.Toml.Parse

/-!
# Typed values from TOML texts

`Toml.load` reads a text into a document value and its span index; `Toml.decodeText` then
reads a typed value from it. Either failure is rendered as a `TomlError` against the
text: a syntax error where reading stopped, a decoding error at the span of its spot (an
error without a spot points at the root table).
-/

namespace MudTestbed

namespace Toml

def load (raw : String) : Except TomlError (Json × SpanIndex) := do
  let (entries, rootSpan) ← parse raw
  let (ms, idx) := TomlNode.entriesToJson [] entries
  pure (.object ms, ([], none, rootSpan) :: idx)

/-- Reads a typed value from a text; the error is the text users see. -/
def decodeText {α : Type} (d : Decoder α) (raw : String) : Except String α :=
  match load raw with
  | .error e => .error (e.render raw)
  | .ok (j, idx) =>
    match d Place.tomlRoot j with
    | .ok a => .ok a
    | .error e =>
      let span := (e.spot.bind idx.spotSpan) <|> idx.valueSpan []
      .error (TomlError.render raw ⟨e.message, span⟩)

end Toml

end MudTestbed
