import CodeJudge.Template.Library
/-!
The built-in templates for JavaScript programs.
-/
namespace CodeJudge.Template.Javascript

/-- Modules that the driver uses. -/
def prelude : Template :=
  rows
    ["const \x7b performance \x7d = require('perf_hooks');"]

/-- Singly linked list node. -/
def listStructure : Template :=
  rows
    ["class ListNode \x7b",
     "  constructor(val = 0, next = null) \x7b",
     "    this.val = val;",
     "    this.next = next;",
     "  \x7d",
     "\x7d"]

/-- Binary tree node. -/
def treeStructure : Template :=
  rows
    ["class TreeNode \x7b",
     "  constructor(val = 0, left = null, right = null) \x7b",
     "    this.val = val;",
     "    this.left = left;",
     "    this.right = right;",
     "  \x7d",
     "\x7d"]

/-- Structural comparison. -/
def commonHelpers : Template :=
  row [.text "const FLOAT_TOLERANCE = ", hole "float_tolerance", .text ";"]
  ++ rows
    ["",
     "function deepEqual(actual, expected) \x7b",
     "  if (actual === undefined) actual = null;",
     "  if (typeof actual === 'number' && typeof expected === 'number') \x7b",
     "    if (Number.isInteger(actual) && Number.isInteger(expected)) \x7b",
     "      return actual === expected;",
     "    \x7d",
     "    return Math.abs(actual - expected) <= FLOAT_TOLERANCE * Math.max(1, Math.abs(expected));",
     "  \x7d",
     "  if (Array.isArray(actual) && Array.isArray(expected)) \x7b",
     "    if (actual.length !== expected.length) return false;",
     "    return actual.every((item, index) => deepEqual(item, expected[index]));",
     "  \x7d",
     "  if (actual && expected && typeof actual === 'object' && typeof expected === 'object') \x7b",
     "    const keys = Object.keys(actual);",
     "    if (keys.length !== Object.keys(expected).length) return false;",
     "    return keys.every((key) => deepEqual(actual[key], expected[key]));",
     "  \x7d",
     "  return actual === expected;",
     "\x7d"]

/-- Build and flatten linked lists. -/
def listHelpers : Template :=
  rows
    ["function createLinkedList(values) \x7b",
     "  const dummy = new ListNode(0);",
     "  let current = dummy;",
     "  for (const value of values || []) \x7b",
     "    current.next = new ListNode(value);",
     "    current = current.next;",
     "  \x7d",
     "  return dummy.next;",
     "\x7d",
     "",
     "function linkedListToArray(head) \x7b",
     "  const values = [];",
     "  const seen = new Set();",
     "  while (head && !seen.has(head)) \x7b",
     "    seen.add(head);",
     "    values.push(head.val);",
     "    head = head.next;",
     "  \x7d",
     "  return values;",
     "\x7d"]

/-- Build and flatten binary trees in level order. -/
def treeHelpers : Template :=
  rows
    ["function createTree(values) \x7b",
     "  if (!values || values.length === 0 || values[0] == null) return null;",
     "  const root = new TreeNode(values[0]);",
     "  const queue = [root];",
     "  let head = 0;",
     "  let index = 1;",
     "  while (head < queue.length && index < values.length) \x7b",
     "    const node = queue[head++];",
     "    if (index < values.length && values[index] != null) \x7b",
     "      node.left = new TreeNode(values[index]);",
     "      queue.push(node.left);",
     "    \x7d",
     "    index++;",
     "    if (index < values.length && values[index] != null) \x7b",
     "      node.right = new TreeNode(values[index]);",
     "      queue.push(node.right);",
     "    \x7d",
     "    index++;",
     "  \x7d",
     "  return root;",
     "\x7d",
     "",
     "function treeToArray(root) \x7b",
     "  if (!root) return [];",
     "  const values = [];",
     "  const queue = [root];",
     "  const seen = new Set();",
     "  let head = 0;",
     "  while (head < queue.length) \x7b",
     "    const node = queue[head++];",
     "    if (!node || seen.has(node)) \x7b",
     "      values.push(null);",
     "      continue;",
     "    \x7d",
     "    seen.add(node);",
     "    values.push(node.val);",
     "    queue.push(node.left || null);",
     "    queue.push(node.right || null);",
     "  \x7d",
     "  while (values.length > 0 && values[values.length - 1] === null) values.pop();",
     "  return values;",
     "\x7d"]

/-- Runs every test case and prints the JSON records. -/
def driver : Template :=
  row [.text "const TEST_CASES = ", hole "test_cases_json", .text ";"]
  ++ rows
    ["",
     "function resolveEntry() \x7b",
     "  if (typeof Solution === 'function') \x7b",
     "    const instance = new Solution();"]
  ++ row [.text "    if (typeof instance.", hole "function_name", .text " === 'function') \x7b"]
  ++ row [.text "      return instance.", hole "function_name", .text ".bind(instance);"]
  ++ rows
    ["    \x7d",
     "  \x7d"]
  ++ row [.text "  if (typeof ", hole "function_name", .text " === 'function') \x7b"]
  ++ row [.text "    return ", hole "function_name", .text ";"]
  ++ rows
    ["  \x7d"]
  ++ row [.text "  throw new ReferenceError(\"function '", hole "function_name",
    .text "' is not defined\");"]
  ++ rows
    ["\x7d",
     "",
     "function buildArgs(__inputs) \x7b"]
  ++ row [hole "build_args"]
  ++ row [.text "  return [", hole "arg_list", .text "];"]
  ++ rows
    ["\x7d",
     "",
     "function flattenResult(__result) \x7b"]
  ++ row [hole "flatten"]
  ++ rows
    ["  return __actual;",
     "\x7d",
     "",
     "function runTestCases() \x7b",
     "  const records = [];",
     "  let entry = null;",
     "  let entryError = null;",
     "  try \x7b",
     "    entry = resolveEntry();",
     "  \x7d catch (err) \x7b",
     "    entryError = err;",
     "  \x7d",
     "  for (const testCase of TEST_CASES) \x7b",
     "    const record = \x7b",
     "      testCaseId: testCase.id,",
     "      status: 'ERROR',",
     "      actualOutput: null,",
     "      expectedOutput: testCase.output,",
     "    \x7d;",
     "    let start = performance.now();",
     "    try \x7b",
     "      if (entryError) throw entryError;",
     "      const args = buildArgs(testCase.input);",
     "      start = performance.now();",
     "      const result = entry(...args);",
     "      record.executionTime = performance.now() - start;",
     "      const actual = flattenResult(result);",
     "      record.actualOutput = actual === undefined ? null : actual;",
     "      record.status = deepEqual(record.actualOutput, testCase.output) ? 'PASSED' : 'FAILED';",
     "    \x7d catch (err) \x7b",
     "      record.executionTime = performance.now() - start;",
     "      record.status = 'ERROR';",
     "      record.error = err && err.name ? `$\x7berr.name\x7d: $\x7berr.message\x7d` : String(err);",
     "      process.stderr.write(`$\x7berr && err.stack ? err.stack : String(err)\x7d\\n`);",
     "    \x7d",
     "    record.memory = Math.round(process.memoryUsage().heapUsed / 1024);",
     "    records.push(record);",
     "  \x7d",
     "  process.stdout.write(JSON.stringify(records) + '\\n');",
     "\x7d",
     "",
     "runTestCases();"]

/-- Editor skeleton. -/
def starter : Template :=
  [.when (.member "needs_linked_list")
      (rows
        ["/**",
         " * Definition for singly-linked list.",
         " * function ListNode(val, next) \x7b",
         " *     this.val = (val===undefined ? 0 : val)",
         " *     this.next = (next===undefined ? null : next)",
         " * \x7d",
         " */"]) []]
  ++ [.when (.member "needs_tree")
      (rows
        ["/**",
         " * Definition for a binary tree node.",
         " * function TreeNode(val, left, right) \x7b",
         " *     this.val = (val===undefined ? 0 : val)",
         " *     this.left = (left===undefined ? null : left)",
         " *     this.right = (right===undefined ? null : right)",
         " * \x7d",
         " */"]) []]
  ++ rows
    ["/**"]
  ++ [.each (.member "params")
      (row [.text " * @param ", .value ⟨true, ["brace_open"]⟩, hole "type",
        .value ⟨true, ["brace_close"]⟩, .text " ", hole "name"]) none]
  ++ row [.text " * @return ", hole "brace_open", hole "return_type", hole "brace_close"]
  ++ rows
    [" */"]
  ++ row [.text "var ", hole "function_name", .text " = function(", hole "arg_list", .text ") \x7b"]
  ++ rows
    ["",
     "\x7d;"]

/-- The templates under their names. -/
def library : TemplateLibrary :=
  ⟨"1.0", .javascript,
    [⟨"common_helpers", "Structural comparison", commonHelpers⟩,
     ⟨"driver", "Runs every test case and prints the JSON records", driver⟩,
     ⟨"list_helpers", "Build and flatten linked lists", listHelpers⟩,
     ⟨"list_structure", "Singly linked list node", listStructure⟩,
     ⟨"prelude", "Node.js modules used by the driver", prelude⟩,
     ⟨"starter", "Editor skeleton", starter⟩,
     ⟨"tree_helpers", "Build and flatten binary trees in level order", treeHelpers⟩,
     ⟨"tree_structure", "Binary tree node", treeStructure⟩]⟩

end CodeJudge.Template.Javascript
