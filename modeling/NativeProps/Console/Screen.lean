import NativeProps.Console.Table

/-!
# A console without colours

The console of the program. It replaces no codes of emoji, and it has bytes for every text. Nothing
that is proved of a report depends on it.

* `Console.Item.screen`: what is shown of an item.
* `Console.screen`: what is shown of items one after the other.
-/

namespace NativeProps.Console

/-- What a console of a width shows of an item. -/
def Item.screen (width : Nat) : Item → List Char
  | .blank => print width []
  | .markup parts => print width (parts.flatMap Part.shown)
  | .plain s => print width s.toList
  | .table t => t.render width

/-- What a console of a width shows of items. -/
def screen (width : Nat) (items : List Item) : String :=
  String.ofList (items.flatMap (Item.screen width))

end NativeProps.Console
