import CodeJudge.Template.Library
/-!
The built-in templates for Python programs.
-/
namespace CodeJudge.Template.Python

/-- Imports available to helpers, driver and solution. -/
def prelude : Template :=
  rows
    ["import json",
     "import math",
     "import sys",
     "import time",
     "import traceback",
     "from collections import deque",
     "from typing import Any, Dict, List, Optional, Set, Tuple"]

/-- Singly linked list node. -/
def listStructure : Template :=
  rows
    ["class ListNode:",
     "    def __init__(self, val=0, next=None):",
     "        self.val = val",
     "        self.next = next"]

/-- Binary tree node. -/
def treeStructure : Template :=
  rows
    ["class TreeNode:",
     "    def __init__(self, val=0, left=None, right=None):",
     "        self.val = val",
     "        self.left = left",
     "        self.right = right"]

/-- Structural comparison and JSON conversion. -/
def commonHelpers : Template :=
  row [.text "_FLOAT_TOLERANCE = ", hole "float_tolerance"]
  ++ rows
    ["",
     "",
     "def _deep_equal(actual, expected):",
     "    if isinstance(actual, bool) or isinstance(expected, bool):",
     "        return isinstance(actual, bool) and isinstance(expected, bool) and actual == expected",
     "    if isinstance(actual, (int, float)) and isinstance(expected, (int, float)):",
     "        if isinstance(actual, float) or isinstance(expected, float):",
     "            return math.isclose(actual, expected, rel_tol=_FLOAT_TOLERANCE, abs_tol=_FLOAT_TOLERANCE)",
     "        return actual == expected",
     "    if isinstance(actual, (list, tuple)) and isinstance(expected, (list, tuple)):",
     "        return len(actual) == len(expected) and all(",
     "            _deep_equal(a, e) for a, e in zip(actual, expected)",
     "        )",
     "    if isinstance(actual, dict) and isinstance(expected, dict):",
     "        return actual.keys() == expected.keys() and all(",
     "            _deep_equal(actual[key], expected[key]) for key in actual",
     "        )",
     "    return actual == expected",
     "",
     "",
     "def _to_json_value(value):",
     "    if isinstance(value, (list, tuple, set)):",
     "        return [_to_json_value(item) for item in value]",
     "    if isinstance(value, dict):",
     "        return dict((str(key), _to_json_value(item)) for key, item in value.items())",
     "    if isinstance(value, float) and not math.isfinite(value):",
     "        return None",
     "    if value is None or isinstance(value, (bool, int, float, str)):",
     "        return value",
     "    return repr(value)",
     "",
     "",
     "def _memory_kb():",
     "    try:",
     "        import resource",
     "        return resource.getrusage(resource.RUSAGE_SELF).ru_maxrss",
     "    except Exception:",
     "        return None"]

/-- Build and flatten linked lists. -/
def listHelpers : Template :=
  rows
    ["def create_linked_list(values):",
     "    dummy = ListNode(0)",
     "    current = dummy",
     "    for value in values or []:",
     "        current.next = ListNode(value)",
     "        current = current.next",
     "    return dummy.next",
     "",
     "",
     "def linked_list_to_array(head):",
     "    values = []",
     "    seen = set()",
     "    while head is not None and id(head) not in seen:",
     "        seen.add(id(head))",
     "        values.append(head.val)",
     "        head = head.next",
     "    return values"]

/-- Build and flatten binary trees in level order. -/
def treeHelpers : Template :=
  rows
    ["def create_tree(values):",
     "    if not values or values[0] is None:",
     "        return None",
     "    root = TreeNode(values[0])",
     "    queue = deque([root])",
     "    index = 1",
     "    while queue and index < len(values):",
     "        node = queue.popleft()",
     "        if index < len(values) and values[index] is not None:",
     "            node.left = TreeNode(values[index])",
     "            queue.append(node.left)",
     "        index += 1",
     "        if index < len(values) and values[index] is not None:",
     "            node.right = TreeNode(values[index])",
     "            queue.append(node.right)",
     "        index += 1",
     "    return root",
     "",
     "",
     "def tree_to_array(root):",
     "    if root is None:",
     "        return []",
     "    values = []",
     "    queue = deque([root])",
     "    seen = set()",
     "    while queue:",
     "        node = queue.popleft()",
     "        if node is None or id(node) in seen:",
     "            values.append(None)",
     "            continue",
     "        seen.add(id(node))",
     "        values.append(node.val)",
     "        queue.append(node.left)",
     "        queue.append(node.right)",
     "    while values and values[-1] is None:",
     "        values.pop()",
     "    return values"]

/-- Runs every test case and prints the JSON records. -/
def driver : Template :=
  row [.text "TEST_CASES = json.loads(", hole "test_cases_literal", .text ")"]
  ++ rows
    ["",
     "",
     "def _resolve_entry():",
     "    solution_class = globals().get(\"Solution\")"]
  ++ row [.text "    if isinstance(solution_class, type) and hasattr(solution_class, \"",
    hole "function_name", .text "\"):"]
  ++ row [.text "        return getattr(solution_class(), \"", hole "function_name", .text "\")"]
  ++ row [.text "    function = globals().get(\"", hole "function_name", .text "\")"]
  ++ rows
    ["    if callable(function):",
     "        return function"]
  ++ row [.text "    raise NameError(\"function '", hole "function_name",
    .text "' is not defined\")"]
  ++ rows
    ["",
     "",
     "def _build_args(_inputs):"]
  ++ row [hole "build_args"]
  ++ row [.text "    return [", hole "arg_list", .text "]"]
  ++ rows
    ["",
     "",
     "def _flatten(_result):"]
  ++ row [hole "flatten"]
  ++ rows
    ["    return _actual",
     "",
     "",
     "def _run():",
     "    records = []",
     "    entry_error = None",
     "    try:",
     "        entry = _resolve_entry()",
     "    except Exception as exc:",
     "        entry = None",
     "        entry_error = exc",
     "    for case in TEST_CASES:",
     "        record = \x7b\"testCaseId\": case[\"id\"], \"expectedOutput\": case[\"output\"]\x7d",
     "        start = time.perf_counter()",
     "        try:",
     "            if entry_error is not None:",
     "                raise entry_error",
     "            args = _build_args(case[\"input\"])",
     "            start = time.perf_counter()",
     "            result = entry(*args)",
     "            elapsed = (time.perf_counter() - start) * 1000",
     "            actual = _to_json_value(_flatten(result))",
     "            record[\"actualOutput\"] = actual",
     "            record[\"status\"] = \"PASSED\" if _deep_equal(actual, case[\"output\"]) else \"FAILED\"",
     "        except Exception as exc:",
     "            elapsed = (time.perf_counter() - start) * 1000",
     "            traceback.print_exc(file=sys.stderr)",
     "            record[\"actualOutput\"] = None",
     "            record[\"status\"] = \"ERROR\"",
     "            record[\"error\"] = type(exc).__name__ + \": \" + str(exc)",
     "        record[\"executionTime\"] = round(elapsed, 3)",
     "        record[\"memory\"] = _memory_kb()",
     "        records.append(record)",
     "    print(json.dumps(records))",
     "",
     "",
     "if __name__ == \"__main__\":",
     "    _run()"]

/-- Editor skeleton. -/
def starter : Template :=
  [.when (.member "needs_linked_list")
      (rows
        ["# Definition for singly-linked list.",
         "# class ListNode:",
         "#     def __init__(self, val=0, next=None):",
         "#         self.val = val",
         "#         self.next = next"]) []]
  ++ [.when (.member "needs_tree")
      (rows
        ["# Definition for a binary tree node.",
         "# class TreeNode:",
         "#     def __init__(self, val=0, left=None, right=None):",
         "#         self.val = val",
         "#         self.left = left",
         "#         self.right = right"]) []]
  ++ rows
    ["class Solution:"]
  ++ row [.text "    def ", hole "function_name", .text "(self",
    .each (.member "params") [.text ", ", hole "name", .text ": ", hole "type"] none,
    .text ") -> ", hole "return_type", .text ":"]
  ++ rows
    ["        pass"]

/-- The templates under their names. -/
def library : TemplateLibrary :=
  ⟨"1.0", .python,
    [⟨"common_helpers", "Structural comparison and JSON conversion", commonHelpers⟩,
     ⟨"driver", "Runs every test case and prints the JSON records", driver⟩,
     ⟨"list_helpers", "Build and flatten linked lists", listHelpers⟩,
     ⟨"list_structure", "Singly linked list node", listStructure⟩,
     ⟨"prelude", "Imports available to helpers, driver and contestant code", prelude⟩,
     ⟨"starter", "Editor skeleton", starter⟩,
     ⟨"tree_helpers", "Build and flatten binary trees in level order", treeHelpers⟩,
     ⟨"tree_structure", "Binary tree node", treeStructure⟩]⟩

end CodeJudge.Template.Python
