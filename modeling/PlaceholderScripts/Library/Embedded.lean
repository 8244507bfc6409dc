/-!
# The embedded library

The library that every script can use where none is read from a directory: functions on texts and on
numbers, with the manifest that lists them and their digests.
-/

namespace PlaceholderScripts.Library.Embedded

/-- The manifest of the embedded library. -/
def manifest : String := "# sha256  file
20182c2334b7e4245133147c2b2cd4f750ca66a7d34b9cdc91744cc40f0e3e5b  text.rhai
1f58ed5c6f36874f5bf7962fb2b3deca66f76668fc0dd64154c886c1fb3f5f72  numbers.rhai
"

def textSource : String := "// String helpers, reachable from scripts as `text::<name>`.

fn capitalize(s) \x7b
    if s.is_empty() \x7b
        return s;
    \x7d
    s.sub_string(0, 1).to_upper() + s.sub_string(1)
\x7d

fn pad_left(s, width, fill) \x7b
    if fill.is_empty() \x7b
        return s;
    \x7d
    let out = s;
    while out.len() < width \x7b
        out = fill + out;
    \x7d
    out
\x7d

fn pad_right(s, width, fill) \x7b
    if fill.is_empty() \x7b
        return s;
    \x7d
    let out = s;
    while out.len() < width \x7b
        out += fill;
    \x7d
    out
\x7d

fn join(items, separator) \x7b
    let out = \"\";
    let first = true;
    for item in items \x7b
        if !first \x7b
            out += separator;
        \x7d
        out += item.to_string();
        first = false;
    \x7d
    out
\x7d
"

def numbersSource : String := "// Numeric formatting helpers, reachable from scripts as `numbers::<name>`.

fn clamp(value, low, high) \x7b
    if value < low \x7b
        low
    \x7d else if value > high \x7b
        high
    \x7d else \x7b
        value
    \x7d
\x7d

fn format_thousands(n) \x7b
    let digits = if n < 0 \x7b (-n).to_string() \x7d else \x7b n.to_string() \x7d;
    let out = \"\";
    let count = 0;
    let i = digits.len() - 1;
    while i >= 0 \x7b
        if count > 0 && count % 3 == 0 \x7b
            out = \",\" + out;
        \x7d
        out = digits.sub_string(i, 1) + out;
        count += 1;
        i -= 1;
    \x7d
    if n < 0 \x7b \"-\" + out \x7d else \x7b out \x7d
\x7d

fn percent(part, total) \x7b
    if total == 0 \x7b
        return 0.0;
    \x7d
    part.to_float() / total.to_float() * 100.0
\x7d
"

def files : List (String × String) := [("text.rhai", textSource), ("numbers.rhai", numbersSource)]

end PlaceholderScripts.Library.Embedded
