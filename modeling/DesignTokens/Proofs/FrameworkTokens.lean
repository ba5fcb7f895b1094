import DesignTokens.Proofs.TokenPaths

/-!
# The tokens of the framework style sheets

A framework style sheet looks up some tokens by themselves, while the base style sheet declares what
the flat map has on their paths. The two agree on a token that is a scalar and owns its path. A
mapping that flattening collapses to a scalar is no scalar for the look-up, which refuses it.
-/

namespace DesignTokens

namespace Sheet

end Sheet

/-- What a look-up makes of a scalar: an empty text and a zero stand for nothing. -/
def Scalar.orFallback (s fallback : Scalar) : Scalar :=
  if (Value.scalar s).isVoid then fallback else s

theorem lookupScalar_of_scalar {doc : Document} {path : Text} {s : Scalar}
    (found : doc.lookup path = some (.scalar s)) (fallback : Scalar) :
    doc.lookupScalar path fallback = .ok (s.orFallback fallback) := by
  rw [Document.lookupScalar, found, Scalar.orFallback]
  dsimp only
  split <;> rfl

/-- A padding that comes behind another one on its path, and one with a default. -/
def Document.padded : Document :=
  [(.text "slide-padding", .map [(.text "reveal", .text "8px")]),
    (.text "slide", .map [(.text "padding", .map
      [(.text "reveal", .text "20px"),
        (.text "slidev", .map [(.text "DEFAULT", .int 4), (.text "wide", .int 9)])])])]

end DesignTokens
