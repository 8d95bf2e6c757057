import CodeJudge.Template.Library
/-!
The built-in templates for C++ programs.
-/
namespace CodeJudge.Template.Cpp

/-- Standard headers. -/
def prelude : Template :=
  rows
    ["#include <algorithm>",
     "#include <chrono>",
     "#include <climits>",
     "#include <cmath>",
     "#include <cstdio>",
     "#include <exception>",
     "#include <functional>",
     "#include <initializer_list>",
     "#include <iostream>",
     "#include <map>",
     "#include <numeric>",
     "#include <optional>",
     "#include <queue>",
     "#include <set>",
     "#include <sstream>",
     "#include <stack>",
     "#include <string>",
     "#include <type_traits>",
     "#include <unordered_map>",
     "#include <unordered_set>",
     "#include <utility>",
     "#include <vector>",
     "",
     "using namespace std;"]

/-- Singly linked list node. -/
def listStructure : Template :=
  rows
    ["struct ListNode \x7b",
     "    int val;",
     "    ListNode* next;",
     "    ListNode() : val(0), next(nullptr) \x7b\x7d",
     "    ListNode(int x) : val(x), next(nullptr) \x7b\x7d",
     "    ListNode(int x, ListNode* next) : val(x), next(next) \x7b\x7d",
     "\x7d;"]

/-- Binary tree node. -/
def treeStructure : Template :=
  rows
    ["struct TreeNode \x7b",
     "    int val;",
     "    TreeNode* left;",
     "    TreeNode* right;",
     "    TreeNode() : val(0), left(nullptr), right(nullptr) \x7b\x7d",
     "    TreeNode(int x) : val(x), left(nullptr), right(nullptr) \x7b\x7d",
     "    TreeNode(int x, TreeNode* left, TreeNode* right) : val(x), left(left), right(right) \x7b\x7d",
     "\x7d;"]

/-- JSON output, structural comparison and record emission. -/
def commonHelpers : Template :=
  row [.text "const double FLOAT_TOLERANCE = ", hole "float_tolerance", .text ";"]
  ++ rows
    ["",
     "string escapeJson(const string& text) \x7b",
     "    string out;",
     "    for (char c : text) \x7b",
     "        switch (c) \x7b",
     "            case '\"': out += \"\\\\\\\"\"; break;",
     "            case '\\\\': out += \"\\\\\\\\\"; break;",
     "            case '\\n': out += \"\\\\n\"; break;",
     "            case '\\r': out += \"\\\\r\"; break;",
     "            case '\\t': out += \"\\\\t\"; break;",
     "            default:",
     "                if (static_cast<unsigned char>(c) < 0x20) \x7b",
     "                    char buffer[8];",
     "                    snprintf(buffer, sizeof(buffer), \"\\\\u%04x\", static_cast<unsigned char>(c));",
     "                    out += buffer;",
     "                \x7d else \x7b",
     "                    out += c;",
     "                \x7d",
     "        \x7d",
     "    \x7d",
     "    return out;",
     "\x7d",
     "",
     "template <typename T> string toJson(const T& value);",
     "template <typename T> string toJson(const vector<T>& values);",
     "template <typename T> string toJson(const optional<T>& value);",
     "",
     "template <typename T>",
     "string toJson(const T& value) \x7b",
     "    if constexpr (is_same_v<T, bool>) \x7b",
     "        return value ? \"true\" : \"false\";",
     "    \x7d else if constexpr (is_same_v<T, char>) \x7b",
     "        return \"\\\"\" + escapeJson(string(1, value)) + \"\\\"\";",
     "    \x7d else if constexpr (is_convertible_v<T, string>) \x7b",
     "        return \"\\\"\" + escapeJson(string(value)) + \"\\\"\";",
     "    \x7d else if constexpr (is_integral_v<T>) \x7b",
     "        return to_string(value);",
     "    \x7d else if constexpr (is_floating_point_v<T>) \x7b",
     "        if (!isfinite(value)) return \"null\";",
     "        ostringstream out;",
     "        out.precision(15);",
     "        out << value;",
     "        return out.str();",
     "    \x7d else \x7b",
     "        return \"null\";",
     "    \x7d",
     "\x7d",
     "",
     "template <typename T>",
     "string toJson(const vector<T>& values) \x7b",
     "    string out = \"[\";",
     "    for (size_t i = 0; i < values.size(); i++) \x7b",
     "        if (i > 0) out += \",\";",
     "        out += toJson(static_cast<T>(values[i]));",
     "    \x7d",
     "    return out + \"]\";",
     "\x7d",
     "",
     "template <typename T>",
     "string toJson(const optional<T>& value) \x7b",
     "    return value.has_value() ? toJson(*value) : \"null\";",
     "\x7d",
     "",
     "template <typename A, typename B> bool deepEqual(const A& actual, const B& expected);",
     "template <typename A, typename B> bool deepEqual(const vector<A>& actual, const vector<B>& expected);",
     "template <typename A, typename B> bool deepEqual(const optional<A>& actual, const optional<B>& expected);",
     "",
     "template <typename A, typename B>",
     "bool deepEqual(const A& actual, const B& expected) \x7b",
     "    if constexpr (is_floating_point_v<A> || is_floating_point_v<B>) \x7b",
     "        double a = static_cast<double>(actual);",
     "        double e = static_cast<double>(expected);",
     "        return fabs(a - e) <= FLOAT_TOLERANCE * max(1.0, fabs(e));",
     "    \x7d else \x7b",
     "        return actual == expected;",
     "    \x7d",
     "\x7d",
     "",
     "template <typename A, typename B>",
     "bool deepEqual(const vector<A>& actual, const vector<B>& expected) \x7b",
     "    if (actual.size() != expected.size()) return false;",
     "    for (size_t i = 0; i < actual.size(); i++) \x7b",
     "        if (!deepEqual(static_cast<A>(actual[i]), static_cast<B>(expected[i]))) return false;",
     "    \x7d",
     "    return true;",
     "\x7d",
     "",
     "template <typename A, typename B>",
     "bool deepEqual(const optional<A>& actual, const optional<B>& expected) \x7b",
     "    if (actual.has_value() != expected.has_value()) return false;",
     "    return !actual.has_value() || deepEqual(*actual, *expected);",
     "\x7d",
     "",
     "double elapsedMs(chrono::steady_clock::time_point start) \x7b",
     "    return chrono::duration<double, milli>(chrono::steady_clock::now() - start).count();",
     "\x7d",
     "",
     "string recordJson(const string& caseId, const string& status, const string& actualJson,",
     "                  const string& expectedJson, double elapsed, const string& error) \x7b",
     "    ostringstream out;",
     "    out << \"\x7b\\\"testCaseId\\\":\" << caseId",
     "        << \",\\\"status\\\":\\\"\" << status << \"\\\"\"",
     "        << \",\\\"actualOutput\\\":\" << actualJson",
     "        << \",\\\"expectedOutput\\\":\" << expectedJson",
     "        << \",\\\"executionTime\\\":\" << elapsed",
     "        << \",\\\"memory\\\":null\";",
     "    if (!error.empty()) \x7b",
     "        out << \",\\\"error\\\":\\\"\" << escapeJson(error) << \"\\\"\";",
     "    \x7d",
     "    out << \"\x7d\";",
     "    return out.str();",
     "\x7d",
     "",
     "vector<string>& pendingRecords() \x7b",
     "    static vector<string> records;",
     "    return records;",
     "\x7d",
     "",
     "void emitRecord(const string& record) \x7b",
     "    pendingRecords().push_back(record);",
     "\x7d",
     "",
     "void printRecords() \x7b",
     "    const vector<string>& records = pendingRecords();",
     "    cout << \"\\n[\";",
     "    for (size_t i = 0; i < records.size(); ++i) \x7b",
     "        cout << (i == 0 ? \"\" : \",\") << records[i];",
     "    \x7d",
     "    cout << \"]\" << endl;",
     "\x7d"]

/-- Build, flatten and release linked lists. -/
def listHelpers : Template :=
  rows
    ["ListNode* createLinkedList(const vector<int>& values) \x7b",
     "    ListNode dummy;",
     "    ListNode* current = &dummy;",
     "    for (int value : values) \x7b",
     "        current->next = new ListNode(value);",
     "        current = current->next;",
     "    \x7d",
     "    return dummy.next;",
     "\x7d",
     "",
     "vector<int> linkedListToVector(ListNode* head) \x7b",
     "    vector<int> values;",
     "    unordered_set<ListNode*> seen;",
     "    while (head != nullptr && seen.insert(head).second) \x7b",
     "        values.push_back(head->val);",
     "        head = head->next;",
     "    \x7d",
     "    return values;",
     "\x7d",
     "",
     "// Handles may alias or share nodes; each node is deleted once.",
     "void freeLinkedLists(initializer_list<ListNode*> heads) \x7b",
     "    unordered_set<ListNode*> nodes;",
     "    for (ListNode* head : heads) \x7b",
     "        while (head != nullptr && nodes.insert(head).second) \x7b",
     "            head = head->next;",
     "        \x7d",
     "    \x7d",
     "    for (ListNode* node : nodes) \x7b",
     "        delete node;",
     "    \x7d",
     "\x7d"]

/-- Build, flatten and release binary trees in level order. -/
def treeHelpers : Template :=
  rows
    ["TreeNode* createTree(const vector<optional<int>>& values) \x7b",
     "    if (values.empty() || !values[0].has_value()) return nullptr;",
     "    TreeNode* root = new TreeNode(*values[0]);",
     "    queue<TreeNode*> pending;",
     "    pending.push(root);",
     "    size_t index = 1;",
     "    while (!pending.empty() && index < values.size()) \x7b",
     "        TreeNode* node = pending.front();",
     "        pending.pop();",
     "        if (index < values.size() && values[index].has_value()) \x7b",
     "            node->left = new TreeNode(*values[index]);",
     "            pending.push(node->left);",
     "        \x7d",
     "        index++;",
     "        if (index < values.size() && values[index].has_value()) \x7b",
     "            node->right = new TreeNode(*values[index]);",
     "            pending.push(node->right);",
     "        \x7d",
     "        index++;",
     "    \x7d",
     "    return root;",
     "\x7d",
     "",
     "vector<optional<int>> treeToVector(TreeNode* root) \x7b",
     "    vector<optional<int>> values;",
     "    if (root == nullptr) return values;",
     "    unordered_set<TreeNode*> seen;",
     "    queue<TreeNode*> pending;",
     "    pending.push(root);",
     "    while (!pending.empty()) \x7b",
     "        TreeNode* node = pending.front();",
     "        pending.pop();",
     "        if (node == nullptr || !seen.insert(node).second) \x7b",
     "            values.push_back(nullopt);",
     "            continue;",
     "        \x7d",
     "        values.push_back(node->val);",
     "        pending.push(node->left);",
     "        pending.push(node->right);",
     "    \x7d",
     "    while (!values.empty() && !values.back().has_value()) \x7b",
     "        values.pop_back();",
     "    \x7d",
     "    return values;",
     "\x7d",
     "",
     "// Handles may alias or share subtrees; each node is deleted once.",
     "void freeTrees(initializer_list<TreeNode*> roots) \x7b",
     "    unordered_set<TreeNode*> nodes;",
     "    vector<TreeNode*> pending(roots.begin(), roots.end());",
     "    while (!pending.empty()) \x7b",
     "        TreeNode* node = pending.back();",
     "        pending.pop_back();",
     "        if (node == nullptr || !nodes.insert(node).second) continue;",
     "        pending.push_back(node->left);",
     "        pending.push_back(node->right);",
     "    \x7d",
     "    for (TreeNode* node : nodes) \x7b",
     "        delete node;",
     "    \x7d",
     "\x7d"]

/-- Runs every test case and prints the JSON records. -/
def driver : Template :=
  rows
    ["int main() \x7b"]
  ++ row [hole "cases"]
  ++ rows
    ["    printRecords();",
     "    return 0;",
     "\x7d"]

/-- Editor skeleton. -/
def starter : Template :=
  [.when (.member "needs_linked_list")
      (rows
        ["/**",
         " * Definition for singly-linked list.",
         " * struct ListNode \x7b",
         " *     int val;",
         " *     ListNode *next;",
         " *     ListNode() : val(0), next(nullptr) \x7b\x7d",
         " *     ListNode(int x) : val(x), next(nullptr) \x7b\x7d",
         " *     ListNode(int x, ListNode *next) : val(x), next(next) \x7b\x7d",
         " * \x7d;",
         " */"]) []]
  ++ [.when (.member "needs_tree")
      (rows
        ["/**",
         " * Definition for a binary tree node.",
         " * struct TreeNode \x7b",
         " *     int val;",
         " *     TreeNode *left;",
         " *     TreeNode *right;",
         " *     TreeNode() : val(0), left(nullptr), right(nullptr) \x7b\x7d",
         " *     TreeNode(int x) : val(x), left(nullptr), right(nullptr) \x7b\x7d",
         " *     TreeNode(int x, TreeNode *left, TreeNode *right) : val(x), left(left), right(right) \x7b\x7d",
         " * \x7d;",
         " */"]) []]
  ++ rows
    ["class Solution \x7b",
     "public:"]
  ++ row [.text "    ", hole "return_type", .text " ", hole "function_name", .text "(",
    hole "signature", .text ") \x7b"]
  ++ rows
    ["",
     "    \x7d",
     "\x7d;"]

/-- The templates under their names. -/
def library : TemplateLibrary :=
  ⟨"1.0", .cpp,
    [⟨"common_helpers", "JSON output, structural comparison and record emission", commonHelpers⟩,
     ⟨"driver", "Runs every test case and prints the JSON records", driver⟩,
     ⟨"list_helpers", "Build, flatten and release linked lists", listHelpers⟩,
     ⟨"list_structure", "Singly linked list node", listStructure⟩,
     ⟨"prelude", "Standard headers (C++17)", prelude⟩,
     ⟨"starter", "Editor skeleton", starter⟩,
     ⟨"tree_helpers", "Build, flatten and release binary trees in level order", treeHelpers⟩,
     ⟨"tree_structure", "Binary tree node", treeStructure⟩]⟩

end CodeJudge.Template.Cpp
