import BrightLint.Settings.Basic

/-!
The settings that hold where a project says nothing else.
-/

namespace BrightLint.Settings

/-- An entry that is active, with its parameters. -/
def entry (params : List (Json.Key × Json)) : Json :=
  .obj [("active", .bool true), ("params", .obj params)]

/-- The format of a note of work to be done: the mark, the word and the initials of a person. -/
def todoFormat : String := "('|rem)\\s*TODO\\s+([A-Z]\x7b2,3\x7d)"

/-- The standard settings. -/
def standard : Settings := .obj
  [("ignore", .arr []),
   ("skip_line", entry []),
   ("skip_file", entry []),
   ("check_comment", entry
     [("TODOs", .obj [("allow_TODOs", .bool true), ("format", .str todoFormat)]),
      ("allow_generic_comments", .bool true)]),
   ("max_line_length", entry [("max_line_length", .int 80)]),
   ("check_file_encoding", entry [("source_file_encoding", .str "ASCII")]),
   ("check_variable_lowercase_start", entry []),
   ("check_variable_types_capitalised", entry []),
   ("spell_check", entry [("dictionary", .str "en_GB")]),
   ("check_trace_free", entry []),
   ("check_fn_and_fn_param_types", entry []),
   ("check_underscore_fn_params", entry []),
   ("consecutive_empty_lines", entry [("consecutive_empty_lines", .int 1)]),
   ("check_indentation", entry [("tab_size", .int 4), ("only_tab_indents", .bool true)]),
   ("spaces_around_operators", entry [("spaces_around_operators", .int 1)]),
   ("check_method_spaces", entry [("method_spaces", .int 1)]),
   ("check_method_declaration_spacing", entry [("method_spaces", .int 1)]),
   ("trailing_white_space", entry []),
   ("check_commas_in_object", .obj [("active", .bool true)]),
   ("check_trailing_comma_in_object", .obj [("active", .bool true)])]

end BrightLint.Settings
