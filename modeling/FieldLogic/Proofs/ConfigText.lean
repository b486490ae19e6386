import FieldLogic.Proofs.LoadedSet
import FieldLogic.Proofs.WrittenJson

/-! The JSON text of a config and back. The reader takes the members in any order, with others between them, and the
writer gives one of these forms, so a config is its text, and a set that was loaded can be loaded again from what its
snapshot is written as. -/

namespace FieldLogic
open Json Text

theorem Mode.decode_writeString (mode : Mode) (rest : List Char) :
    Mode.decode (writeString mode.name ++ rest) = .ok (mode, rest) :=
  decodeVariant_writeString (by cases mode <;> decide) rest

namespace Config

theorem decodeExpressions_writeArray (expressions : List String) (rest : List Char) :
    decodeExpressions (writeArray (expressions.map writeString) ++ rest) = .ok (expressions, rest) :=
  decodeList_writeArray (fun text _ => readBack_writeString "a string" text) rest

variable {members : Members}

theorem decodeMember_mode (unread : members.mode? = none) (mode : Mode) (rest : List Char) :
    decodeMember members (writeString "mode" ++ ':' :: (writeString mode.name ++ rest)) =
      .ok ({ members with mode? := some mode }, rest) := by
  have named := readName_writeString .checked "mode" (':' :: (writeString mode.name ++ rest))
  have marked := readMark_cons (by decide : isSpace ':' = false) (writeString mode.name ++ rest)
  simp only [decodeMember, named, marked, Mode.decode_writeString, unread, bind, Except.bind]
  rfl

theorem decodeMember_expressions (unread : members.expressions? = none) (expressions : List String) (rest : List Char) :
    decodeMember members (writeString "expressions" ++ ':' :: (writeArray (expressions.map writeString) ++ rest)) =
      .ok ({ members with expressions? := some expressions }, rest) := by
  have named := readName_writeString .checked "expressions" (':' :: (writeArray (expressions.map writeString) ++ rest))
  have marked := readMark_cons (by decide : isSpace ':' = false) (writeArray (expressions.map writeString) ++ rest)
  simp only [decodeMember, named, marked, decodeExpressions_writeArray, unread, bind, Except.bind]
  rfl

/-- The members of a config as they are written, with the bracket behind them. -/
def membersText (config : Config) : List Char :=
  writeString "mode" ++ ':' :: (writeString config.mode.name ++
    ',' :: (writeString "expressions" ++ ':' :: (writeArray (config.expressions.map writeString) ++ ['\x7d'])))

theorem toList_jsonText (config : Config) : config.jsonText.toList = '\x7b' :: config.membersText := by
  simp [jsonText, membersText, writeObject, commaSeparated]

theorem readBracketed_membersText (config : Config) :
    readBracketed '\x7d' decodeMember ⟨none, none⟩ config.membersText =
      .ok (⟨some config.mode, some config.expressions⟩, []) := by
  have first := decodeMember_mode (rfl : (⟨none, none⟩ : Members).mode? = none) config.mode
    (',' :: (writeString "expressions" ++ ':' :: (writeArray (config.expressions.map writeString) ++ ['\x7d'])))
  have second := decodeMember_expressions (rfl : (⟨some config.mode, none⟩ : Members).expressions? = none)
    config.expressions ['\x7d']
  rw [membersText, readBracketed_of_ink (writeString_append ..) (by decide) (by decide),
    readItems_comma first _ (by decide), readItems_close second (by decide)]
  simp only [List.length_append, List.length_cons]
  omega

theorem decode_jsonText (config : Config) : decode config.jsonText.toList = .ok (config, []) := by
  rw [toList_jsonText, decode, skipSpace_of_not_isSpace _ (by decide)]
  simp only [readBracketed_membersText]
  rfl

theorem ofJson_written (config : Config) : Config.ofJson config.jsonText = .ok config := by
  rw [Config.ofJson, whole, decode_jsonText]
  rfl

end Config

namespace ConditionSet
open Expression

theorem ofJson_eq_ok_iff {text : String} {set : ConditionSet} :
    ofJson text = .ok set ↔ ∃ config, Config.ofJson text = .ok config ∧ ofConfig config = .ok set := by
  rw [ofJson]
  cases Config.ofJson text with
  | error fault => simp
  | ok config => cases loaded : ofConfig config <;> simp [Except.mapError, loaded]

/-- A config is read back from its text, whatever characters its conditions hold. So a set that was loaded is loaded
again from the text of its snapshot. -/
theorem ofJson_jsonText :
    (∀ config : Config, Config.ofJson config.jsonText = .ok config) ∧
      ∀ {text : String} {set : ConditionSet}, ofJson text = .ok set → ofJson set.snapshot.1.jsonText = .ok set := by
  refine ⟨Config.ofJson_written, ?_⟩
  intro text set loaded
  obtain ⟨config, _, valid⟩ := ofJson_eq_ok_iff.mp loaded
  rw [snapshot_ofConfig valid]
  exact ofJson_eq_ok_iff.mpr ⟨config, Config.ofJson_written config, valid⟩

/-- The text loaded has its members the other way around, one that is passed over, space, and other escapes. -/
theorem ofJson_jsonText_escaped :
    ofJson "\x7b \"x\": [1], \"expressions\": [\"\\u00e9 = '\\n\\u0001\\/' AND b\\\\\"], \"mode\": \"all\"\x7d" =
        .ok ⟨[.fixed "é = '\n\x01/' AND b\\"], .all⟩ ∧
      ofJson "\x7b\"mode\":\"all\",\"expressions\":[\"é = '\\n\\u0001/' AND b\\\\\"]\x7d" =
        .ok ⟨[.fixed "é = '\n\x01/' AND b\\"], .all⟩ := by
  have parsed : parse "é = '\n\x01/' AND b\\" = .ok (.conjunction [.leaf "é = '\n\x01/' ", .leaf "b\\"]) := by
    decide +kernel
  have valid : ofConfig ⟨.all, ["é = '\n\x01/' AND b\\"]⟩ = .ok ⟨[.fixed "é = '\n\x01/' AND b\\"], .all⟩ :=
    ofConfig_eq_ok_iff.mpr ⟨by simp [parsed], rfl⟩
  have loaded : ofJson
      "\x7b \"x\": [1], \"expressions\": [\"\\u00e9 = '\\n\\u0001\\/' AND b\\\\\"], \"mode\": \"all\"\x7d" =
      .ok ⟨[.fixed "é = '\n\x01/' AND b\\"], .all⟩ :=
    ofJson_eq_ok_iff.mpr ⟨⟨.all, ["é = '\n\x01/' AND b\\"]⟩, by decide +kernel, valid⟩
  have written : (⟨[.fixed "é = '\n\x01/' AND b\\"], .all⟩ : ConditionSet).snapshot.1.jsonText =
      "\x7b\"mode\":\"all\",\"expressions\":[\"é = '\\n\\u0001/' AND b\\\\\"]\x7d" := by decide +kernel
  have again := ofJson_jsonText.2 loaded
  rw [written] at again
  exact ⟨loaded, again⟩

end ConditionSet

end FieldLogic
