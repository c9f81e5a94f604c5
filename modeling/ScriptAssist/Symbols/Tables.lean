import ScriptAssist.Symbols.Catalog

/-!
# The built-in tables

The symbols of the client scripting API. Rows are literal, in the order in which they are
offered.
-/

namespace ScriptAssist.Symbols

open Snippet

/-- Label, kind, detail and template. -/
abbrev Row := String × SymbolKind × String × String

/-- Members of `frappe`. -/
def rootRows : List Row := [
  ("session", .property, "Current user session information", "session"),
  ("user", .property, "Current user information", "user"),
  ("user_roles", .property, "Array of current user roles", "user_roles"),
  ("user_info", .property, "Current user info object", "user_info"),
  ("defaults", .property, "User defaults", "defaults"),
  ("boot", .property, "Boot information", "boot"),
  ("sys_defaults", .property, "System defaults", "sys_defaults"),
  ("form_dict", .property, "Request parameters", "form_dict"),
  ("datetime", .property, "DateTime utilities", "datetime"),
  ("quick_entry", .property, "Current Quick Entry object", "quick_entry"),
  ("route_options", .property, "Route options for navigation", "route_options"),
  ("get_doc", .method, "Get document from server", "get_doc(\"${1:doctype}\", \"${2:name}\")"),
  ("new_doc", .method, "Create new document", "new_doc(\"${1:doctype}\")"),
  ("get_list", .method, "Get document list", "get_list(\"${1:doctype}\")"),
  ("get_all", .method, "Get all documents (no permissions)",
    r#"get_all("${1:doctype}", {filters: {${2:field}: "${3:value}"}})"#),
  ("get_value", .method, "Get field value",
    "get_value(\"${1:doctype}\", \"${2:name}\", \"${3:fieldname}\")"),
  ("set_value", .method, "Set field value",
    "set_value(\"${1:doctype}\", \"${2:name}\", \"${3:fieldname}\", \"${4:value}\")"),
  ("get_meta", .method, "Get doctype meta", "get_meta(\"${1:doctype}\")"),
  ("get_last_doc", .method, "Get last created document", "get_last_doc(\"${1:doctype}\")"),
  ("get_single", .method, "Get single doctype document", "get_single(\"${1:doctype}\")"),
  ("get_installed_apps", .method, "Get list of installed apps", "get_installed_apps()"),
  ("call", .method, "Make server calls",
    r"call({" ++ "\n\tmethod: \"${1:method_name}\",\n\tcallback: function(r) " ++
      r"{" ++ "\n\t\t$0\n\t" ++ r"}" ++ "\n" ++ r"})"),
  ("msgprint", .method, "Show message to user", "msgprint(\"${1:message}\")"),
  ("throw", .method, "Throw an error", "throw(\"${1:error_message}\")"),
  ("confirm", .method, "Show confirmation dialog",
    "confirm(\"${1:message}\", function() " ++ r"{" ++ "\n\t$0\n" ++ r"})"),
  ("prompt", .method, "Show prompt dialog", "prompt(\"${1:message}\")"),
  ("show_alert", .method, "Show alert message", "show_alert(\"${1:message}\")"),
  ("hide_msgprint", .method, "Hide message print", "hide_msgprint()"),
  ("set_route", .method, "Set route/navigate", "set_route(\"${1:route}\")"),
  ("get_route", .method, "Get current route", "get_route()"),
  ("format_currency", .method, "Format currency",
    "format_currency(${1:value}, \"${2:currency}\")"),
  ("format_date", .method, "Format date", "format_date(\"${1:date}\")"),
  ("run_serially", .method, "Run tasks serially", "run_serially([\n\t$0\n])"),
  ("xcall", .method, "Make async server call", "xcall(\"${1:method}\")"),
  ("db", .property, "Database operations", "db"),
  ("ui", .property, "UI components and methods", "ui"),
  ("utils", .property, "Utility functions", "utils"),
  ("model", .property, "Model utilities", "model"),
  ("request", .property, "Request utilities", "request"),
  ("pages", .property, "Page registry", "pages"),
  ("views", .property, "View registry", "views"),
  ("desk", .property, "Desk utilities", "desk"),
  ("workspace", .property, "Workspace methods", "workspace")]

/-- Members of `frappe.session`. -/
def sessionRows : List Row := [
  ("user", .property, "Current user ID", "user"),
  ("user_fullname", .property, "Current user full name", "user_fullname"),
  ("user_email", .property, "Current user email", "user_email"),
  ("user_image", .property, "Current user image", "user_image"),
  ("sid", .property, "Session ID", "sid"),
  ("csrf_token", .property, "CSRF token", "csrf_token")]

/-- Members of `frappe.db`. -/
def databaseRows : List Row := [
  ("get_value", .method, "Get single field value",
    "get_value(\"${1:doctype}\", \"${2:filters}\", \"${3:fieldname}\")"),
  ("get_single_value", .method, "Get single doctype field value",
    "get_single_value(\"${1:doctype}\", \"${2:field}\")"),
  ("get_doc", .method, "Get document by name", "get_doc(\"${1:doctype}\", \"${2:name}\")"),
  ("get_list", .method, "Get document list with filters",
    r#"get_list("${1:doctype}", {fields: [${2:"name"}], limit: ${3:20}})"#),
  ("exists", .method, "Check if document exists", "exists(\"${1:doctype}\", \"${2:name}\")"),
  ("insert", .method, "Insert new document",
    r"insert({" ++ "\n\tdoctype: \"${1:doctype}\",\n\t$0\n" ++ r"})"),
  ("delete_doc", .method, "Delete document", "delete_doc(\"${1:doctype}\", \"${2:name}\")"),
  ("count", .method, "Count documents", "count(\"${1:doctype}\", {${2:args}})")]

/-- Members of `frappe.ui`. -/
def uiRows : List Row := [
  ("form", .property, "Form utilities and methods", "form"),
  ("toolbar", .property, "Toolbar methods", "toolbar"),
  ("Dialog", .property, "Dialog class for creating dialogs", "Dialog"),
  ("make_app", .property, "Make app method", "make_app"),
  ("Page", .property, "Page class", "Page"),
  ("Field", .property, "Field class", "Field")]

/-- The call that attaches a handler map. -/
def attachRows : List Row := [
  ("on", .method, "Attach event handlers to a DocType form",
    r#"on("${1:DocType}", {"# ++ "\n\t${2:refresh}(frm) " ++
      r"{" ++ "\n\t\t$0\n\t" ++ r"}" ++ "\n" ++ r"});")]

/-- Members of a form object. -/
def formRows : List Row := [
  ("doc", .property, "Current document object", "doc"),
  ("doctype", .property, "Document type", "doctype"),
  ("docname", .property, "Document name", "docname"),
  ("fields_dict", .property, "Dictionary of form fields", "fields_dict"),
  ("meta", .property, "Document meta information", "meta"),
  ("is_new", .method, "Check if document is new", "is_new()"),
  ("is_dirty", .method, "Check if form is dirty", "is_dirty()"),
  ("set_value", .method, "Set field value", "set_value(\"${1:fieldname}\", \"${2:value}\")"),
  ("get_field", .method, "Get field object", "get_field(\"${1:fieldname}\")"),
  ("set_query", .method, "Set field query/filter",
    r#"set_query("${1:fieldname}", function() {"# ++ "\n\treturn " ++ r"{" ++
      "\n\t\tfilters: " ++ r"{" ++ "\n\t\t\t$0\n\t\t" ++ r"}" ++ "\n\t" ++ r"};" ++
      "\n" ++ r"})"),
  ("set_df_property", .method, "Set docfield property",
    "set_df_property(\"${1:fieldname}\", \"${2:property}\", ${3:value})"),
  ("toggle_display", .method, "Toggle field display",
    "toggle_display(\"${1:fieldname}\", ${2:show})"),
  ("toggle_reqd", .method, "Toggle field required",
    "toggle_reqd(\"${1:fieldname}\", ${2:required})"),
  ("toggle_enable", .method, "Toggle field enable",
    "toggle_enable(\"${1:fieldname}\", ${2:enable})"),
  ("set_intro", .method, "Set form intro message", "set_intro(\"${1:message}\")"),
  ("clear_intro", .method, "Clear form intro", "clear_intro()"),
  ("add_custom_button", .method, "Add custom button",
    "add_custom_button(\"${1:label}\", function() " ++ r"{" ++ "\n\t$0\n" ++ r"})"),
  ("remove_custom_button", .method, "Remove custom button",
    "remove_custom_button(\"${1:label}\")"),
  ("clear_custom_buttons", .method, "Clear all custom buttons", "clear_custom_buttons()"),
  ("save", .method, "Save form", "save()"),
  ("submit", .method, "Submit form", "submit()"),
  ("cancel", .method, "Cancel form", "cancel()"),
  ("reload_doc", .method, "Reload document", "reload_doc()"),
  ("refresh", .method, "Refresh form", "refresh()"),
  ("refresh_field", .method, "Refresh specific field", "refresh_field(\"${1:fieldname}\")"),
  ("refresh_fields", .method, "Refresh multiple fields",
    "refresh_fields([\"${1:fieldname1}\", \"${2:fieldname2}\"])"),
  ("call", .method, "Call server method",
    r"call({" ++ "\n\tmethod: \"${1:method_name}\",\n\tcallback: function(r) " ++
      r"{" ++ "\n\t\t$0\n\t" ++ r"}" ++ "\n" ++ r"})"),
  ("trigger", .method, "Trigger field event", "trigger(\"${1:fieldname}\")"),
  ("add_child", .method, "Add child table row", "add_child(\"${1:fieldname}\")"),
  ("clear_table", .method, "Clear child table", "clear_table(\"${1:fieldname}\")"),
  ("layout", .property, "Form layout object", "layout"),
  ("sidebar", .property, "Form sidebar", "sidebar"),
  ("toolbar", .property, "Form toolbar", "toolbar"),
  ("dashboard", .property, "Form dashboard", "dashboard"),
  ("page", .property, "Page object", "page"),
  ("set_title", .method, "Set page title", "set_title(\"${1:title}\")")]

/-- Form events. -/
def eventsRows : List (String × String) := [
  ("setup", "Triggered once when the form is created for the first time"),
  ("before_load", "Triggered before the form is about to load"),
  ("onload", "Triggered when the form is loaded and is about to render"),
  ("refresh", "Triggered when the form is loaded and rendered"),
  ("onload_post_render", "Triggered after the form is loaded and rendered"),
  ("validate", "Triggered before before_save"),
  ("before_save", "Triggered before save is called"),
  ("after_save", "Triggered after form is saved"),
  ("before_submit", "Triggered before submit is called"),
  ("on_submit", "Triggered after form is submitted"),
  ("before_cancel", "Triggered before cancel is called"),
  ("after_cancel", "Triggered after form is cancelled"),
  ("before_discard", "Triggered before discard is called"),
  ("after_discard", "Triggered after form is discarded"),
  ("timeline_refresh", "Triggered after form timeline is rendered"),
  ("company", "Triggered when company field is changed"),
  ("customer", "Triggered when customer field is changed"),
  ("item_code", "Triggered when item_code field is changed"),
  ("items_add", "Triggered when a row is added to items child table"),
  ("items_move", "Triggered when a row is moved in items child table"),
  ("before_items_remove", "Triggered before a row is removed from items child table"),
  ("items_remove", "Triggered when a row is removed from items child table"),
  ("items_on_form_rendered", "Triggered when a row is opened as a form in items table")]

/-- Names in scope everywhere. -/
def globalsRows : List (String × String) := [
  ("frappe", "Main Frappe object"),
  ("cur_frm", "Current form object"),
  ("cur_list", "Current list object"),
  ("cur_dialog", "Current open dialog"),
  ("cur_page", "Current page object"),
  ("locals", "All loaded documents and DocTypes")]

/-- The symbol of a row. -/
def ofRow : Row → Symbol
  | (label, kind, detail, template) => ⟨label, kind, detail, .parse template⟩

/-- The built-in table of a domain. Events are inserted as entries of a handler map, and globals
as their own name. -/
def builtin : Domain → List Symbol
  | .root => rootRows.map ofRow
  | .session => sessionRows.map ofRow
  | .database => databaseRows.map ofRow
  | .ui => uiRows.map ofRow
  | .attach => attachRows.map ofRow
  | .form => formRows.map ofRow
  | .events => eventsRows.map fun (label, detail) =>
    ⟨label, .function, detail, .eventHandler label⟩
  | .globals => globalsRows.map fun (label, detail) => .plain label .binding detail

end ScriptAssist.Symbols

namespace ScriptAssist

/-- The catalog of all built-in tables. -/
def Catalog.builtin : Catalog :=
  ⟨fun domain => some (Symbols.builtin domain)⟩

end ScriptAssist
