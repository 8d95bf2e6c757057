import CodeJudge.Template.Library
/-!
The built-in templates for Java programs.
-/
namespace CodeJudge.Template.Java

/-- Imports; those of a solution are appended. -/
def prelude : Template :=
  rows
    ["import java.lang.reflect.Array;",
     "import java.util.*;",
     "import java.util.function.*;",
     "import java.util.stream.*;"]

/-- Singly linked list node. -/
def listStructure : Template :=
  rows
    ["class ListNode \x7b",
     "    int val;",
     "    ListNode next;",
     "    ListNode() \x7b\x7d",
     "    ListNode(int val) \x7b this.val = val; \x7d",
     "    ListNode(int val, ListNode next) \x7b this.val = val; this.next = next; \x7d",
     "\x7d"]

/-- Binary tree node. -/
def treeStructure : Template :=
  rows
    ["class TreeNode \x7b",
     "    int val;",
     "    TreeNode left;",
     "    TreeNode right;",
     "    TreeNode() \x7b\x7d",
     "    TreeNode(int val) \x7b this.val = val; \x7d",
     "    TreeNode(int val, TreeNode left, TreeNode right) \x7b",
     "        this.val = val;",
     "        this.left = left;",
     "        this.right = right;",
     "    \x7d",
     "\x7d"]

/-- Canonical values, comparison, JSON output and structure conversion. -/
def commonHelpers : Template :=
  rows
    ["final class Harness \x7b"]
  ++ row [.text "    static final double FLOAT_TOLERANCE = ", hole "float_tolerance", .text ";"]
  ++ rows
    ["",
     "    private Harness() \x7b\x7d",
     "",
     "    static Object canonical(Object value) \x7b",
     "        if (value == null) return null;",
     "        if (value.getClass().isArray()) \x7b",
     "            int length = Array.getLength(value);",
     "            List<Object> items = new ArrayList<>(length);",
     "            for (int i = 0; i < length; i++) \x7b",
     "                items.add(canonical(Array.get(value, i)));",
     "            \x7d",
     "            return items;",
     "        \x7d",
     "        if (value instanceof Iterable<?>) \x7b",
     "            List<Object> items = new ArrayList<>();",
     "            for (Object item : (Iterable<?>) value) \x7b",
     "                items.add(canonical(item));",
     "            \x7d",
     "            return items;",
     "        \x7d",
     "        if (value instanceof Byte || value instanceof Short || value instanceof Integer || value instanceof Long) \x7b",
     "            return ((Number) value).longValue();",
     "        \x7d",
     "        if (value instanceof Float || value instanceof Double) \x7b",
     "            return ((Number) value).doubleValue();",
     "        \x7d",
     "        if (value instanceof Character) \x7b",
     "            return String.valueOf(value);",
     "        \x7d",
     "        return value;",
     "    \x7d",
     "",
     "    static boolean deepEquals(Object actual, Object expected) \x7b",
     "        if (actual == null || expected == null) return actual == expected;",
     "        if (actual instanceof Number && expected instanceof Number) \x7b",
     "            if (actual instanceof Double || expected instanceof Double) \x7b",
     "                double a = ((Number) actual).doubleValue();",
     "                double e = ((Number) expected).doubleValue();",
     "                return Math.abs(a - e) <= FLOAT_TOLERANCE * Math.max(1.0, Math.abs(e));",
     "            \x7d",
     "            return ((Number) actual).longValue() == ((Number) expected).longValue();",
     "        \x7d",
     "        if (actual instanceof List<?> && expected instanceof List<?>) \x7b",
     "            List<?> a = (List<?>) actual;",
     "            List<?> e = (List<?>) expected;",
     "            if (a.size() != e.size()) return false;",
     "            for (int i = 0; i < a.size(); i++) \x7b",
     "                if (!deepEquals(a.get(i), e.get(i))) return false;",
     "            \x7d",
     "            return true;",
     "        \x7d",
     "        return actual.equals(expected);",
     "    \x7d",
     "",
     "    static String toJson(Object value) \x7b",
     "        if (value == null) return \"null\";",
     "        if (value instanceof String) return quote((String) value);",
     "        if (value instanceof Double) \x7b",
     "            double d = (Double) value;",
     "            return Double.isNaN(d) || Double.isInfinite(d) ? \"null\" : Double.toString(d);",
     "        \x7d",
     "        if (value instanceof List<?>) \x7b",
     "            StringJoiner joiner = new StringJoiner(\",\", \"[\", \"]\");",
     "            for (Object item : (List<?>) value) \x7b",
     "                joiner.add(toJson(item));",
     "            \x7d",
     "            return joiner.toString();",
     "        \x7d",
     "        if (value instanceof Number || value instanceof Boolean) return String.valueOf(value);",
     "        return quote(String.valueOf(value));",
     "    \x7d",
     "",
     "    static String quote(String text) \x7b",
     "        StringBuilder out = new StringBuilder(\"\\\"\");",
     "        for (char c : text.toCharArray()) \x7b",
     "            switch (c) \x7b",
     "                case '\"': out.append(\"\\\\\\\"\"); break;",
     "                case '\\\\': out.append(\"\\\\\\\\\"); break;",
     "                case '\\n': out.append(\"\\\\n\"); break;",
     "                case '\\r': out.append(\"\\\\r\"); break;",
     "                case '\\t': out.append(\"\\\\t\"); break;",
     "                default:",
     "                    if (c < 0x20) \x7b",
     "                        out.append(String.format(\"\\\\u%04x\", (int) c));",
     "                    \x7d else \x7b",
     "                        out.append(c);",
     "                    \x7d",
     "            \x7d",
     "        \x7d",
     "        return out.append('\"').toString();",
     "    \x7d",
     "",
     "    static long usedMemoryKb() \x7b",
     "        Runtime runtime = Runtime.getRuntime();",
     "        return (runtime.totalMemory() - runtime.freeMemory()) / 1024;",
     "    \x7d",
     "",
     "    static String record(String caseId, String status, Object actual, String expectedJson,",
     "                         double elapsedMs, String error) \x7b",
     "        StringBuilder out = new StringBuilder();",
     "        out.append(\"\x7b\\\"testCaseId\\\":\").append(caseId)",
     "           .append(\",\\\"status\\\":\\\"\").append(status).append('\"')",
     "           .append(\",\\\"actualOutput\\\":\").append(toJson(actual))",
     "           .append(\",\\\"expectedOutput\\\":\").append(expectedJson)",
     "           .append(\",\\\"executionTime\\\":\").append(elapsedMs)",
     "           .append(\",\\\"memory\\\":\").append(usedMemoryKb());",
     "        if (error != null) \x7b",
     "            out.append(\",\\\"error\\\":\").append(quote(error));",
     "        \x7d",
     "        return out.append('\x7d').toString();",
     "    \x7d",
     "",
     "    static List<List<Integer>> adjacency(int[][] rows) \x7b",
     "        List<List<Integer>> graph = new ArrayList<>(rows.length);",
     "        for (int[] row : rows) \x7b",
     "            List<Integer> neighbors = new ArrayList<>(row.length);",
     "            for (int node : row) \x7b",
     "                neighbors.add(node);",
     "            \x7d",
     "            graph.add(neighbors);",
     "        \x7d",
     "        return graph;",
     "    \x7d"]
  ++ [.when (.member "needs_linked_list")
      (rows
        ["",
         "    static ListNode createLinkedList(int[] values) \x7b",
         "        ListNode dummy = new ListNode(0);",
         "        ListNode current = dummy;",
         "        for (int value : values) \x7b",
         "            current.next = new ListNode(value);",
         "            current = current.next;",
         "        \x7d",
         "        return dummy.next;",
         "    \x7d",
         "",
         "    static List<Integer> linkedListToList(ListNode head) \x7b",
         "        List<Integer> values = new ArrayList<>();",
         "        Set<ListNode> seen = Collections.newSetFromMap(new IdentityHashMap<>());",
         "        while (head != null && seen.add(head)) \x7b",
         "            values.add(head.val);",
         "            head = head.next;",
         "        \x7d",
         "        return values;",
         "    \x7d"]) []]
  ++ [.when (.member "needs_tree")
      (rows
        ["",
         "    static TreeNode createTree(Integer[] values) \x7b",
         "        if (values.length == 0 || values[0] == null) return null;",
         "        TreeNode root = new TreeNode(values[0]);",
         "        List<TreeNode> pending = new ArrayList<>();",
         "        pending.add(root);",
         "        int head = 0;",
         "        int index = 1;",
         "        while (head < pending.size() && index < values.length) \x7b",
         "            TreeNode node = pending.get(head++);",
         "            if (index < values.length && values[index] != null) \x7b",
         "                node.left = new TreeNode(values[index]);",
         "                pending.add(node.left);",
         "            \x7d",
         "            index++;",
         "            if (index < values.length && values[index] != null) \x7b",
         "                node.right = new TreeNode(values[index]);",
         "                pending.add(node.right);",
         "            \x7d",
         "            index++;",
         "        \x7d",
         "        return root;",
         "    \x7d",
         "",
         "    static List<Integer> treeToList(TreeNode root) \x7b",
         "        List<Integer> values = new ArrayList<>();",
         "        if (root == null) return values;",
         "        Set<TreeNode> seen = Collections.newSetFromMap(new IdentityHashMap<>());",
         "        List<TreeNode> pending = new ArrayList<>();",
         "        pending.add(root);",
         "        for (int head = 0; head < pending.size(); head++) \x7b",
         "            TreeNode node = pending.get(head);",
         "            if (node == null || !seen.add(node)) \x7b",
         "                values.add(null);",
         "                continue;",
         "            \x7d",
         "            values.add(node.val);",
         "            pending.add(node.left);",
         "            pending.add(node.right);",
         "        \x7d",
         "        while (!values.isEmpty() && values.get(values.size() - 1) == null) \x7b",
         "            values.remove(values.size() - 1);",
         "        \x7d",
         "        return values;",
         "    \x7d"]) []]
  ++ rows
    ["\x7d"]

/-- Runs every test case and prints the JSON records. -/
def driver : Template :=
  rows
    ["public class Main \x7b"]
  ++ row [hole "cases"]
  ++ rows
    ["",
     "    public static void main(String[] args) \x7b",
     "        List<String> records = new ArrayList<>();"]
  ++ row [hole "calls"]
  ++ rows
    ["        System.out.println(\"[\" + String.join(\",\", records) + \"]\");",
     "    \x7d",
     "\x7d"]

/-- Editor skeleton. -/
def starter : Template :=
  [.when (.member "needs_linked_list")
      (rows
        ["/**",
         " * Definition for singly-linked list.",
         " * public class ListNode \x7b",
         " *     int val;",
         " *     ListNode next;",
         " *     ListNode() \x7b\x7d",
         " *     ListNode(int val) \x7b this.val = val; \x7d",
         " *     ListNode(int val, ListNode next) \x7b this.val = val; this.next = next; \x7d",
         " * \x7d",
         " */"]) []]
  ++ [.when (.member "needs_tree")
      (rows
        ["/**",
         " * Definition for a binary tree node.",
         " * public class TreeNode \x7b",
         " *     int val;",
         " *     TreeNode left;",
         " *     TreeNode right;",
         " *     TreeNode() \x7b\x7d",
         " *     TreeNode(int val) \x7b this.val = val; \x7d",
         " *     TreeNode(int val, TreeNode left, TreeNode right) \x7b",
         " *         this.val = val;",
         " *         this.left = left;",
         " *         this.right = right;",
         " *     \x7d",
         " * \x7d",
         " */"]) []]
  ++ rows
    ["class Solution \x7b"]
  ++ row [.text "    public ", hole "return_type", .text " ", hole "function_name", .text "(",
    hole "signature", .text ") \x7b"]
  ++ rows
    ["",
     "    \x7d",
     "\x7d"]

/-- The templates under their names. -/
def library : TemplateLibrary :=
  ⟨"1.0", .java,
    [⟨"common_helpers", "Canonical values, comparison, JSON output and structure conversion", commonHelpers⟩,
     ⟨"driver", "Runs every test case and prints the JSON records", driver⟩,
     ⟨"list_structure", "Singly linked list node", listStructure⟩,
     ⟨"prelude", "Imports; contestant imports are appended after these", prelude⟩,
     ⟨"starter", "Editor skeleton", starter⟩,
     ⟨"tree_structure", "Binary tree node", treeStructure⟩]⟩

end CodeJudge.Template.Java
