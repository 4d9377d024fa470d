import Reshape.Json.Fields

/-!
# Thinnings

One document is a thinning of another when it comes about by removing items of arrays, at any
depth, and by nothing else.
-/

namespace Reshape

mutual

/-- What is left of a value when items of its arrays are removed. -/
inductive Thinning : Json → Json → Prop where
  /-- Nothing is removed. -/
  | same (value : Json) : Thinning value value
  | array {items items' : List Json} :
      ThinningItems items items' → Thinning (.array items) (.array items')
  | object {fields fields' : List (String × Json)} :
      ThinningFields fields fields' → Thinning (.object fields) (.object fields')

/-- Items are removed from a list, and those that stay are thinned. -/
inductive ThinningItems : List Json → List Json → Prop where
  | nil : ThinningItems [] []
  | drop {item : Json} {items items' : List Json} :
      ThinningItems items items' → ThinningItems (item :: items) items'
  | keep {item item' : Json} {items items' : List Json} :
      Thinning item item' → ThinningItems items items' →
      ThinningItems (item :: items) (item' :: items')

/-- All fields stay, and their values are thinned. -/
inductive ThinningFields : List (String × Json) → List (String × Json) → Prop where
  | nil : ThinningFields [] []
  | cons {key : String} {value value' : Json} {fields fields' : List (String × Json)} :
      Thinning value value' → ThinningFields fields fields' →
      ThinningFields ((key, value) :: fields) ((key, value') :: fields')

end

end Reshape
