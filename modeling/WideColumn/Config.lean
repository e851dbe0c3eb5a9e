/-!
# Settings

* `WideColumn.Config`: what the building of descriptors asks for;
* `WideColumn.Setting`, `WideColumn.Config.ofSetting?`: settings as they are read from a file.
-/

namespace WideColumn

/-- What the building of descriptors asks for. -/
structure Config where
  /-- The keyspace of classes that name none. -/
  defaultKeyspace : Option String := none
  /-- Whether the codec of a property has to fit the type of the property. -/
  validateCodecs : Bool := true
  deriving DecidableEq, Repr, Inhabited

/-- A value in a file of settings, as far as it can be one of a setting. -/
inductive Setting where
  | null
  | flag (b : Bool)
  | text (s : String)
  /-- Named values; of two of one name the first counts. -/
  | record (fields : List (String × Setting))
  /-- Values in a fixed order. -/
  | list (items : List Setting)
  /-- A value that is none of these. -/
  | other
  deriving Inhabited

/-- The keyspace setting, which may be left out or null. -/
def Setting.keyspace? : Option Setting → Option (Option String)
  | none => some none
  | some .null => some none
  | some (.text s) => some (some s)
  | some _ => none

/-- A setting that is on if it is left out. -/
def Setting.flag? : Option Setting → Option Bool
  | none => some true
  | some (.flag b) => some b
  | some _ => none

/-- The settings of a keyspace and a flag, where both are given and have the right form. -/
def Config.ofFields? (keyspace flag : Option Setting) : Option Config := do
  return ⟨← Setting.keyspace? keyspace, ← Setting.flag? flag⟩

/-- The settings of a record, in which fields of other names do not matter, or of a list, which
gives them in order and may end early. -/
def Config.ofSetting? : Setting → Option Config
  | .record fields =>
    ofFields? (fields.lookup "default_keyspace") (fields.lookup "validate_custom_codecs")
  | .list [] => ofFields? none none
  | .list [keyspace] => ofFields? (some keyspace) none
  | .list [keyspace, flag] => ofFields? (some keyspace) (some flag)
  | _ => none

end WideColumn
