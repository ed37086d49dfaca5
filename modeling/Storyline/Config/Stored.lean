-- SUMMARY: Reading settings from a RON text.
import Storyline.Config
import Storyline.Ron.Reader

/-!
# Stored settings

A settings file names only what it overrides: every field may be left out.
-/

namespace Storyline

open Data

namespace ScriptConfig

def shape : Shape :=
  .record "ScriptConfig" <|
    .cons "narrator_ids" .defaulted (.list .text) <|
    .cons "clear_tokens" .defaulted (.list .text) <|
    .cons "max_legacy_speaker_chars" .defaulted .word <|
    .nil

def ofValue? (value : Value) : Option ScriptConfig := do
  let default : ScriptConfig := {}
  let narrators ← value.defaulted? "narrator_ids" default.narrators (Value.toList? Value.toText?)
  let clearTokens ← value.defaulted? "clear_tokens" default.clearTokens (Value.toList? Value.toText?)
  let maxSpeakerLength ←
    value.defaulted? "max_legacy_speaker_chars" default.maxSpeakerLength Value.toNat?
  some { narrators, clearTokens, maxSpeakerLength }

end ScriptConfig

namespace MemoryConfig

def shape : Shape :=
  .record "MemoryConfig" <|
    .cons "max_chars" .defaulted .word <|
    .cons "converge_sentinel" .defaulted .text <|
    .cons "opening_text" .defaulted .text <|
    .nil

def ofValue? (value : Value) : Option MemoryConfig := do
  let default : MemoryConfig := {}
  let maxChars ← value.defaulted? "max_chars" default.maxChars Value.toNat?
  let convergeText ← value.defaulted? "converge_sentinel" default.convergeText Value.toText?
  let openingText ← value.defaulted? "opening_text" default.openingText Value.toText?
  some { maxChars, convergeText, openingText }

end MemoryConfig

namespace Config

def shape : Shape :=
  .record "EngineConfig" <|
    .cons "root_id" .defaulted .text <|
    .cons "script" .defaulted ScriptConfig.shape <|
    .cons "memory" .defaulted MemoryConfig.shape <|
    .nil

def ofValue? (value : Value) : Option Config := do
  let root ← value.defaulted? "root_id" defaultRoot Value.toText?
  let script ← value.defaulted? "script" {} ScriptConfig.ofValue?
  let memory ← value.defaulted? "memory" {} MemoryConfig.ofValue?
  some { root, script, memory }

/-- Reads settings written in RON. -/
def ofRon? (text : String) : Option Config :=
  (Ron.read? shape text).bind ofValue?

end Config

end Storyline
