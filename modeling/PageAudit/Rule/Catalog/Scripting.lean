import PageAudit.Rule.Basic
/-!
Rules of the catalog: scripts in general, and their style.
-/
namespace PageAudit.Catalog

def scripting : List Rule := [
  { id := "js-001"
    name := "Minimize JavaScript Execution Time"
    category := "JavaScript Best Practices"
    severity := .warning
    description := "Keep JavaScript execution under 2 seconds on mobile devices."
    rationale :=
      "Heavy JavaScript blocks the main thread, delaying interactivity and increasing INP."
    impact :=
      "Long-running scripts cause janky scrolling, slow interactions, and poor Core Web Vitals " ++
      "scores."
    source := "Google Lighthouse"
    sourceUrl := "https://developer.chrome.com/docs/lighthouse/performance/bootup-time/"
    goodExamples := [
      "Code splitting", "Tree shaking", "Lazy loading", "Web workers for heavy tasks"]
    badExamples := ["Large bundles", "Blocking operations", "No code splitting"] },
  { id := "js-002"
    name := "Avoid Render-Blocking JavaScript"
    category := "JavaScript Best Practices"
    severity := .warning
    description := "Use defer or async attributes on script tags to avoid blocking HTML parsing."
    rationale := "Synchronous scripts block HTML parsing and delay First Contentful Paint."
    impact := "Blocking scripts make pages feel slow and hurt Core Web Vitals scores."
    source := "MDN Web Docs"
    sourceUrl := "https://developer.mozilla.org/en-US/docs/Web/HTML/Element/script"
    goodExamples := ["<script defer src=\"app.js\">", "<script async src=\"analytics.js\">"]
    badExamples := ["<script> in <head> without defer/async", "document.write()"] },
  { id := "js-003"
    name := "Handle Errors Gracefully"
    category := "JavaScript Best Practices"
    severity := .warning
    description := "Implement error handling and fallbacks for all JavaScript functionality."
    rationale :=
      "JavaScript errors can break entire pages. Graceful degradation ensures functionality."
    impact := "Unhandled errors make features unusable and frustrate users."
    source := "MDN Web Docs"
    sourceUrl :=
      "https://developer.mozilla.org/en-US/docs/Web/JavaScript/Guide/Control_flow_and_error_handling"
    goodExamples := [
      "try/catch blocks", "window.onerror handler", "Fallback content", "Progressive enhancement"]
    badExamples := ["No error handling", "Features requiring JS with no fallback"] }]

def scriptStyle : List Rule := [
  { id := "airbnb-001"
    name := "Use const and let Instead of var"
    category := "JavaScript Style (Airbnb)"
    severity := .warning
    description := "Declare bindings with const, or let when they are reassigned. Never use var."
    rationale := "Block scoping prevents hoisting bugs and accidental reassignment."
    impact := "var declarations leak out of blocks and make reassignment bugs likely."
    source := "Airbnb JavaScript Style Guide"
    sourceUrl := "https://github.com/airbnb/javascript#references"
    goodExamples := ["const total = 0;", "let count = 1;"]
    badExamples := ["var total = 0;"] },
  { id := "airbnb-002"
    name := "Prefer Arrow Functions for Callbacks"
    category := "JavaScript Style (Airbnb)"
    severity := .info
    description := "Use arrow function notation for anonymous functions and callbacks."
    rationale := "Arrow functions bind this lexically and are more concise."
    impact := "Anonymous function expressions invite this-binding mistakes."
    source := "Airbnb JavaScript Style Guide"
    sourceUrl := "https://github.com/airbnb/javascript#arrow-functions"
    goodExamples := ["[1, 2].map((x) => x * 2);"]
    badExamples := ["[1, 2].map(function (x) \x7b return x * 2; \x7d);"] },
  { id := "airbnb-003"
    name := "Use Template Literals"
    category := "JavaScript Style (Airbnb)"
    severity := .info
    description := "Build strings with template literals instead of concatenation."
    rationale := "Template literals are easier to read and avoid missing-space bugs."
    impact := "Concatenated strings are harder to read and maintain."
    source := "Airbnb JavaScript Style Guide"
    sourceUrl := "https://github.com/airbnb/javascript#es6-template-literals"
    goodExamples := ["`Hello, $\x7bname\x7d!`"]
    badExamples := ["'Hello, ' + name + '!'"] },
  { id := "airbnb-004"
    name := "Use Object Destructuring"
    category := "JavaScript Style (Airbnb)"
    severity := .info
    description := "Destructure objects when accessing several of their properties."
    rationale := "Destructuring avoids repeated property access and temporary references."
    impact := "Repeated property access adds noise and makes refactoring harder."
    source := "Airbnb JavaScript Style Guide"
    sourceUrl := "https://github.com/airbnb/javascript#destructuring"
    goodExamples := ["const \x7b firstName, lastName \x7d = user;"]
    badExamples := ["const firstName = user.firstName; const lastName = user.lastName;"] },
  { id := "airbnb-005"
    name := "Use Default Parameter Syntax"
    category := "JavaScript Style (Airbnb)"
    severity := .info
    description := "Use default parameter syntax rather than mutating function arguments."
    rationale := "Default parameters document intent and avoid falsy-value bugs."
    impact := "Fallbacks with || silently replace valid falsy arguments such as 0."
    source := "Airbnb JavaScript Style Guide"
    sourceUrl := "https://github.com/airbnb/javascript#es6-default-parameters"
    goodExamples := ["function handle(opts = \x7b\x7d) \x7b \x7d"]
    badExamples := ["function handle(opts) \x7b opts = opts || \x7b\x7d; \x7d"] },
  { id := "googlejs-001"
    name := "Terminate Statements with Semicolons"
    category := "JavaScript Style (Google)"
    severity := .info
    description := "Every statement must be terminated with a semicolon."
    rationale := "Relying on automatic semicolon insertion causes subtle parsing bugs."
    impact := "ASI surprises break code after minification or concatenation."
    source := "Google JavaScript Style Guide"
    sourceUrl :=
      "https://google.github.io/styleguide/jsguide.html#formatting-semicolons-are-required"
    goodExamples := ["const a = 1;"]
    badExamples := ["const a = 1"] },
  { id := "googlejs-002"
    name := "Document Functions with JSDoc"
    category := "JavaScript Style (Google)"
    severity := .info
    description := "Document functions with JSDoc including @param and @return tags."
    rationale := "JSDoc documents contracts and enables type checking by tools."
    impact := "Undocumented functions are harder to use correctly and to maintain."
    source := "Google JavaScript Style Guide"
    sourceUrl := "https://google.github.io/styleguide/jsguide.html#jsdoc"
    goodExamples := ["/** @param \x7bstring\x7d name @return \x7bstring\x7d */"]
    badExamples := ["Public functions without any documentation"] },
  { id := "googlejs-003"
    name := "Use Strict Equality"
    category := "JavaScript Style (Google)"
    severity := .warning
    description := "Compare with === and !== instead of == and !=."
    rationale := "Loose equality applies type coercion with surprising results."
    impact := "Type coercion causes bugs such as \"0\" == false being true."
    source := "Google JavaScript Style Guide"
    sourceUrl := "https://google.github.io/styleguide/jsguide.html"
    goodExamples := ["if (count === 0) \x7b \x7d"]
    badExamples := ["if (count == 0) \x7b \x7d"] },
  { id := "googlejs-004"
    name := "Avoid Global Variables"
    category := "JavaScript Style (Google)"
    severity := .warning
    description := "Do not declare globals with var; use modules and block-scoped bindings."
    rationale := "Globals collide between scripts and make state hard to reason about."
    impact := "Global pollution causes hard-to-find conflicts with third-party scripts."
    source := "Google JavaScript Style Guide"
    sourceUrl :=
      "https://google.github.io/styleguide/jsguide.html#features-local-variable-declarations"
    goodExamples := ["const config = \x7b\x7d;  // inside an ES module"]
    badExamples := ["var config = \x7b\x7d;  // at top level of a classic script"] },
  { id := "eslint-001"
    name := "Remove Unused Variables"
    category := "JavaScript Quality (ESLint)"
    severity := .warning
    description := "Variables that are declared but never used should be removed."
    rationale := "Unused code adds weight and hides real bugs."
    impact := "Dead code increases bundle size and maintenance cost."
    source := "ESLint Recommended Rules"
    sourceUrl := "https://eslint.org/docs/latest/rules/no-unused-vars"
    goodExamples := ["Tree-shaken bundles", "Linting with no-unused-vars"]
    badExamples := ["const unused = compute();"] },
  { id := "eslint-002"
    name := "Remove Console Statements"
    category := "JavaScript Quality (ESLint)"
    severity := .warning
    description := "Production code must not contain console.log and similar calls."
    rationale := "Console output leaks internals and costs performance in production."
    impact := "Console statements expose debugging information to every visitor."
    source := "ESLint Recommended Rules"
    sourceUrl := "https://eslint.org/docs/latest/rules/no-console"
    goodExamples := ["A logging library with production log levels"]
    badExamples := ["console.log(\"user\", user);"] },
  { id := "eslint-003"
    name := "Remove Debugger Statements"
    category := "JavaScript Quality (ESLint)"
    severity := .error
    description := "Production code must not contain debugger statements."
    rationale := "debugger pauses execution whenever developer tools are open."
    impact := "Leftover debugger statements halt the page for anyone with devtools open."
    source := "ESLint Recommended Rules"
    sourceUrl := "https://eslint.org/docs/latest/rules/no-debugger"
    goodExamples := ["Breakpoints set in developer tools instead of code"]
    badExamples := ["debugger;"] },
  { id := "eslint-004"
    name := "Disallow Duplicate Object Keys"
    category := "JavaScript Quality (ESLint)"
    severity := .error
    description := "Object literals must not define the same key twice."
    rationale := "A duplicate key silently overwrites the earlier value."
    impact := "Duplicate keys cause values to disappear without any error."
    source := "ESLint Recommended Rules"
    sourceUrl := "https://eslint.org/docs/latest/rules/no-dupe-keys"
    goodExamples := ["\x7b name: 'a', label: 'b' \x7d"]
    badExamples := ["\x7b name: 'a', name: 'b' \x7d"] }]

end PageAudit.Catalog
