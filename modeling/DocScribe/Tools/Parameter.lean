import DocScribe.Json.Basic

/-! The parameters of the tools, as a client sees them. -/

namespace DocScribe.Tools
open DocScribe

/-- A parameter; one without a default has to be given. -/
structure Parameter where
  name : String
  default : Option Json := none

namespace Parameter

def optional (name : String) (default : Json) : Parameter := ⟨name, some default⟩

def document : Parameter := ⟨"document_id", none⟩

def asJson : Parameter := optional "as_json" (.bool false)

def folder : Parameter := optional "parent_folder_id" .null

/-- The parameters of each tool, in order. -/
def ofTools : List (String × List Parameter) :=
  [("create_doc", [⟨"title", none⟩, folder, optional "content" (.str ""),
      optional "markdown_file" .null, optional "parse_markdown" (.bool true)]),
    ("update_doc", [document, optional "content" .null, optional "content_file" .null,
      optional "content_format" (.str "plain"), optional "append" (.bool false)]),
    ("get_doc_info", [document, asJson]),
    ("get_doc_content", [document, optional "max_bytes" .null, optional "tab" .null,
      optional "all_tabs" (.bool false), asJson]),
    ("list_doc_tabs", [document, asJson]),
    ("export_doc", [document, optional "export_format" (.str "pdf"), optional "output_path" .null]),
    ("copy_doc", [document, ⟨"title", none⟩, folder])]

def ofTool (tool : String) : List Parameter := (ofTools.lookup tool).getD []

end Parameter
end DocScribe.Tools
