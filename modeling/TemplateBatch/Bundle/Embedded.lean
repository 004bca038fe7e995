import TemplateBatch.Text.Basic

/-!
The texts that every host carries: two helper libraries for templates and the run configuration of
a worker whose modules need nothing at load time.
-/
namespace TemplateBatch.Embedded

/-- Text helpers that templates use. -/
def textLibrary : String :=
  Text.join "\n"
    ["//! Text helpers available to every template as `text::*`.",
      "",
      "/// Escape `&`, `<`, `>`, `\"` and `'` for HTML element content.",
      "pub fn escape_html(input: &str) -> String \x7b",
      "    let mut out = String::with_capacity(input.len());",
      "    for c in input.chars() \x7b",
      "        match c \x7b",
      "            '&' => out.push_str(\"&amp;\"),",
      "            '<' => out.push_str(\"&lt;\"),",
      "            '>' => out.push_str(\"&gt;\"),",
      "            '\"' => out.push_str(\"&quot;\"),",
      "            '\\'' => out.push_str(\"&#39;\"),",
      "            _ => out.push(c),",
      "        \x7d",
      "    \x7d",
      "    out",
      "\x7d",
      "",
      "/// Escape a value for a Rust string literal body.",
      "pub fn escape_rust_str(input: &str) -> String \x7b",
      "    input.escape_default().to_string()",
      "\x7d",
      "",
      "/// Prefix every non-empty line with `width` spaces.",
      "pub fn indent(input: &str, width: usize) -> String \x7b",
      "    let pad = \" \".repeat(width);",
      "    input",
      "        .lines()",
      "        .map(|line| if line.is_empty() \x7b String::new() \x7d else \x7b format!(\"\x7b\x7d\x7b\x7d\", pad, line) \x7d)",
      "        .collect::<Vec<_>>()",
      "        .join(\"\\n\")",
      "\x7d",
      "",
      "/// Join displayable items with a separator.",
      "pub fn join<I, T>(items: I, separator: &str) -> String",
      "where",
      "    I: IntoIterator<Item = T>,",
      "    T: ::std::fmt::Display,",
      "\x7b",
      "    items",
      "        .into_iter()",
      "        .map(|item| item.to_string())",
      "        .collect::<Vec<_>>()",
      "        .join(separator)",
      "\x7d",
      ""]

/-- Case conversions that templates use. -/
def casingLibrary : String :=
  Text.join "\n"
    ["//! Identifier case conversion for code-generating templates.",
      "",
      "fn words(input: &str) -> Vec<String> \x7b",
      "    let mut words = Vec::new();",
      "    let mut current = String::new();",
      "    let mut prev_lower = false;",
      "    for c in input.chars() \x7b",
      "        if !c.is_alphanumeric() \x7b",
      "            if !current.is_empty() \x7b",
      "                words.push(::std::mem::take(&mut current));",
      "            \x7d",
      "            prev_lower = false;",
      "            continue;",
      "        \x7d",
      "        if c.is_uppercase() && prev_lower && !current.is_empty() \x7b",
      "            words.push(::std::mem::take(&mut current));",
      "        \x7d",
      "        prev_lower = c.is_lowercase() || c.is_numeric();",
      "        current.extend(c.to_lowercase());",
      "    \x7d",
      "    if !current.is_empty() \x7b",
      "        words.push(current);",
      "    \x7d",
      "    words",
      "\x7d",
      "",
      "fn capitalize(word: &str) -> String \x7b",
      "    let mut chars = word.chars();",
      "    match chars.next() \x7b",
      "        Some(first) => first.to_uppercase().chain(chars).collect(),",
      "        None => String::new(),",
      "    \x7d",
      "\x7d",
      "",
      "/// `\"HttpRequest\"` -> `\"http_request\"`",
      "pub fn to_snake_case(input: &str) -> String \x7b",
      "    words(input).join(\"_\")",
      "\x7d",
      "",
      "/// `\"http request\"` -> `\"HttpRequest\"`",
      "pub fn to_pascal_case(input: &str) -> String \x7b",
      "    words(input).iter().map(|w| capitalize(w)).collect()",
      "\x7d",
      "",
      "/// `\"http_request\"` -> `\"httpRequest\"`",
      "pub fn to_camel_case(input: &str) -> String \x7b",
      "    let pascal = to_pascal_case(input);",
      "    let mut chars = pascal.chars();",
      "    match chars.next() \x7b",
      "        Some(first) => first.to_lowercase().chain(chars).collect(),",
      "        None => String::new(),",
      "    \x7d",
      "\x7d",
      "",
      "/// `\"http_request\"` -> `\"HTTP_REQUEST\"`",
      "pub fn to_screaming_snake_case(input: &str) -> String \x7b",
      "    to_snake_case(input).to_uppercase()",
      "\x7d",
      ""]

/-- The run configuration staged beside the worker unless another takes its place. -/
def runConfiguration : String :=
  Text.join "\n"
    ["\x7b",
      "  \"runtime\": \x7b",
      "    \"name\": \"rust-std\",",
      "    \"linkage\": \"static\",",
      "    \"searchDirectories\": []",
      "  \x7d",
      "\x7d",
      ""]

end TemplateBatch.Embedded
