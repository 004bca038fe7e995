import TemplateBatch.Text.Basic

/-!
The fixed files of a scratch crate: the stub that turns its templates into a module, and the imports
that all of its templates see.
-/
namespace TemplateBatch.Crate

/-- What makes a module of the templates: the buffer they write to and the exported calls. -/
def stubText : String :=
  Text.join "\n"
    ["//! rendergen runtime: the renderable capability and the module's C ABI.",
      "//!",
      "//! Bundled as source into every module so the module never depends on a",
      "//! host-side runtime crate.",
      "",
      "use std::any::Any;",
      "use std::fmt::\x7bself, Display, Write as _\x7d;",
      "use std::panic::\x7bself, AssertUnwindSafe\x7d;",
      "",
      "/// A renderable template, constructed with `Default` and executed once.",
      "pub trait Template: Default \x7b",
      "    /// False only for `Undefined`",
      "    const DEFINED: bool = true;",
      "",
      "    fn execute(&mut self, out: &mut TemplateBase) -> fmt::Result;",
      "\x7d",
      "",
      "/// Stands in for a renderable its source never defined. Never listed.",
      "#[derive(Debug, Default)]",
      "pub struct Undefined;",
      "",
      "impl Template for Undefined \x7b",
      "    const DEFINED: bool = false;",
      "",
      "    fn execute(&mut self, _out: &mut TemplateBase) -> fmt::Result \x7b",
      "        Ok(())",
      "    \x7d",
      "\x7d",
      "",
      "/// Output buffer handed to `Template::execute`.",
      "#[derive(Debug, Default)]",
      "pub struct TemplateBase \x7b",
      "    buffer: String,",
      "    attribute_suffix: Option<String>,",
      "\x7d",
      "",
      "impl TemplateBase \x7b",
      "    pub fn write_literal(&mut self, literal: &str) \x7b",
      "        self.buffer.push_str(literal);",
      "    \x7d",
      "",
      "    pub fn write<T: Display + ?Sized>(&mut self, value: &T) -> fmt::Result \x7b",
      "        write!(self.buffer, \"\x7b\x7d\", value)",
      "    \x7d",
      "",
      "    pub fn begin_write_attribute(&mut self, _name: &str, prefix: &str, suffix: &str) \x7b",
      "        self.attribute_suffix = Some(suffix.to_string());",
      "        self.buffer.push_str(prefix);",
      "    \x7d",
      "",
      "    pub fn write_attribute_value<T: Display + ?Sized>(&mut self, prefix: &str, value: &T) -> fmt::Result \x7b",
      "        self.buffer.push_str(prefix);",
      "        self.write(value)",
      "    \x7d",
      "",
      "    pub fn end_write_attribute(&mut self) \x7b",
      "        if let Some(suffix) = self.attribute_suffix.take() \x7b",
      "            self.buffer.push_str(&suffix);",
      "        \x7d",
      "    \x7d",
      "",
      "    pub fn as_str(&self) -> &str \x7b",
      "        &self.buffer",
      "    \x7d",
      "",
      "    pub fn into_string(self) -> String \x7b",
      "        self.buffer",
      "    \x7d",
      "\x7d",
      "",
      "/// Execute `template` and return everything it wrote.",
      "pub fn result<T: Template>(template: &mut T) -> Result<String, String> \x7b",
      "    let mut out = TemplateBase::default();",
      "    template",
      "        .execute(&mut out)",
      "        .map_err(|_| format!(\"'\x7b\x7d' reported a formatting error\", std::any::type_name::<T>()))?;",
      "    Ok(out.into_string())",
      "\x7d",
      "",
      "/// Construct a default `T` and render it.",
      "pub fn render<T: Template>() -> Result<String, String> \x7b",
      "    let mut template = T::default();",
      "    result(&mut template)",
      "\x7d",
      "",
      "/// One renderable type registered in the module manifest.",
      "pub struct ManifestEntry \x7b",
      "    pub name: &'static str,",
      "    pub defined: bool,",
      "    pub render: fn() -> Result<String, String>,",
      "\x7d",
      "",
      "/// The `index`th entry whose type the module actually defines",
      "fn listed(index: usize) -> Option<&'static ManifestEntry> \x7b",
      "    crate::__RENDERGEN_MANIFEST",
      "        .iter()",
      "        .filter(|entry| entry.defined)",
      "        .nth(index)",
      "\x7d",
      "",
      "pub const ABI_VERSION: u32 = 1;",
      "",
      "const STATUS_OK: u32 = 0;",
      "const STATUS_FAILED: u32 = 1;",
      "const STATUS_NO_SUCH_TEMPLATE: u32 = 2;",
      "",
      "#[repr(C)]",
      "pub struct RenderOutcome \x7b",
      "    pub status: u32,",
      "    pub ptr: *mut u8,",
      "    pub len: usize,",
      "    pub capacity: usize,",
      "\x7d",
      "",
      "impl RenderOutcome \x7b",
      "    fn new(status: u32, text: String) -> Self \x7b",
      "        let mut bytes = std::mem::ManuallyDrop::new(text.into_bytes());",
      "        RenderOutcome \x7b",
      "            status,",
      "            ptr: bytes.as_mut_ptr(),",
      "            len: bytes.len(),",
      "            capacity: bytes.capacity(),",
      "        \x7d",
      "    \x7d",
      "\x7d",
      "",
      "fn panic_message(payload: Box<dyn Any + Send>) -> String \x7b",
      "    if let Some(message) = payload.downcast_ref::<&str>() \x7b",
      "        message.to_string()",
      "    \x7d else if let Some(message) = payload.downcast_ref::<String>() \x7b",
      "        message.clone()",
      "    \x7d else \x7b",
      "        \"panic with a non-string payload\".to_string()",
      "    \x7d",
      "\x7d",
      "",
      "#[no_mangle]",
      "pub extern \"C\" fn rendergen_abi_version() -> u32 \x7b",
      "    ABI_VERSION",
      "\x7d",
      "",
      "#[no_mangle]",
      "pub extern \"C\" fn rendergen_template_count() -> usize \x7b",
      "    crate::__RENDERGEN_MANIFEST",
      "        .iter()",
      "        .filter(|entry| entry.defined)",
      "        .count()",
      "\x7d",
      "",
      "/// # Safety",
      "/// `len` must be null or valid for a `usize` write.",
      "#[no_mangle]",
      "pub unsafe extern \"C\" fn rendergen_template_name(index: usize, len: *mut usize) -> *const u8 \x7b",
      "    match listed(index) \x7b",
      "        Some(entry) => \x7b",
      "            if !len.is_null() \x7b",
      "                *len = entry.name.len();",
      "            \x7d",
      "            entry.name.as_ptr()",
      "        \x7d",
      "        None => std::ptr::null(),",
      "    \x7d",
      "\x7d",
      "",
      "#[no_mangle]",
      "pub extern \"C\" fn rendergen_render(index: usize) -> RenderOutcome \x7b",
      "    let entry = match listed(index) \x7b",
      "        Some(entry) => entry,",
      "        None => \x7b",
      "            return RenderOutcome::new(",
      "                STATUS_NO_SUCH_TEMPLATE,",
      "                format!(\"no template at index \x7b\x7d\", index),",
      "            )",
      "        \x7d",
      "    \x7d;",
      "",
      "    match panic::catch_unwind(AssertUnwindSafe(entry.render)) \x7b",
      "        Ok(Ok(text)) => RenderOutcome::new(STATUS_OK, text),",
      "        Ok(Err(message)) => RenderOutcome::new(STATUS_FAILED, message),",
      "        Err(payload) => RenderOutcome::new(",
      "            STATUS_FAILED,",
      "            format!(\"'\x7b\x7d' panicked: \x7b\x7d\", entry.name, panic_message(payload)),",
      "        ),",
      "    \x7d",
      "\x7d",
      "",
      "/// # Safety",
      "/// `outcome` must come from `rendergen_render` and be released once.",
      "#[no_mangle]",
      "pub unsafe extern \"C\" fn rendergen_release(outcome: RenderOutcome) \x7b",
      "    if !outcome.ptr.is_null() \x7b",
      "        drop(Vec::from_raw_parts(outcome.ptr, outcome.len, outcome.capacity));",
      "    \x7d",
      "\x7d",
      ""]

/-- Imports that do not depend on the references. -/
def ambientText : String :=
  Text.join "\n"
    ["//! Imports every template module sees.",
      "",
      "pub use std::collections::\x7bBTreeMap, BTreeSet, HashMap, HashSet, VecDeque\x7d;",
      "pub use std::fmt::\x7bself, Display, Write\x7d;",
      "pub use std::iter;",
      "",
      "pub use crate::__rendergen_runtime::\x7bTemplate, TemplateBase\x7d;",
      ""]

end TemplateBatch.Crate
